/-
  ClockDiscipline/Proofs/FaultIsolation.lean
  ==========================================
  **What a device that fails does to the other clocks.**

  Two runs of one cycle differ in one device: in the first its events are
  accepted, in the second it gives none of use (`GivesNoEvents`), or it gives
  the same events and fails when its clock is corrected (`FailsCorrections`).
  In either case the runs part over that clock alone: its source counts as
  handled all the same, and nothing is ambiguous for it.  So the reports on
  the other clocks, the calls made on their devices and their servos are the
  same (`fault_isolation`).

  Everywhere else the reference shows the same in both runs, but not the same
  from one reading to the next.  What it shows for an event of the one device
  only the first run sees; when that turn is over, the two agree again.
-/
import ClockDiscipline.Proofs.RunsApart
import ClockDiscipline.Proofs.BenchApart
import ClockDiscipline.Proofs.FallingEdge

namespace ClockDiscipline

open ClockDiscipline.Action

variable {W W' H S ε α : Type}

/-! ### What is wrong with a device -/

/-- A source can not use the answer: a failure, no event, or one of another channel. -/
def EdgeSource.Refuses (s : EdgeSource) (answer : Except ε (Option EdgeEvent)) : Prop :=
  ∀ event, answer = .ok (some event) → event.channel ≠ s.channel

theorem EdgeSource.refuses_iff {s : EdgeSource} {answer : Except ε (Option EdgeEvent)} :
    s.Refuses answer ↔ ∃ e, s.sift answer = .error e := by
  cases htaken : s.sift answer with
  | error e =>
    refine ⟨fun _ => ⟨e, rfl⟩, fun _ event hanswer hchannel => ?_⟩
    subst hanswer
    simp [sift, hchannel] at htaken
  | ok event =>
    obtain ⟨hanswer, hchannel⟩ := sift_eq_ok htaken
    refine ⟨fun h => absurd hchannel (h event hanswer), ?_⟩
    rintro ⟨e, ⟨⟩⟩

/-- The same answer, or a failure. -/
def SameOrFails (x y : Except ε α) : Prop := y = x ∨ ∃ e, y = .error e

namespace Orchestrator

/-- The first run is related to the second one, which stands still, as soon as it is done
    with the answer of a device.  For an event it has to read the time of the system. -/
structure CaughtUp (T : W → W' → Prop) (env : Environment W H S ε) (s : EdgeSource)
    (answer : Except ε (Option EdgeEvent)) (m : Machine W) (w' : W') : Prop where
  refused : s.Refuses answer → T m.world w'
  taken : ¬s.Refuses answer → ∀ time m₁, Returns env.systemTime m time m₁ → T m₁.world w'

/-- In the first run the events of a source are accepted, in the second one its device
    gives nothing of use.  The time of the system may move on in the turn of the source,
    also by being read: the turn that fails has but to take as long as the other. -/
structure GivesNoEvents (T : W → W' → Prop) (env : Environment W H S ε)
    (env' : Environment W' H S ε) (o : Orchestrator H S) (s : EdgeSource) (bad : H) : Prop where
  turn : ∀ m n answer m₁, T m.world n.world → Returns (env.device.nextEvent bad) m answer m₁ →
    ∃ answer' n₁, Returns (env'.device.nextEvent bad) n answer' n₁ ∧ s.Refuses answer' ∧
      CaughtUp T env s answer m₁ n₁.world
  accepted : ∀ m w' event m₁ reference m₂, T m.world w' →
    Returns (env.device.nextEvent bad) m (.ok (some event)) m₁ → event.channel = s.channel →
    Returns (o.reference.now env o.clocks) m₁ (.ok reference) m₂ →
    pairEvent event.time s.correction reference s.polarity s.window ≠ .ok .ambiguous
  alone : AloneWith T env bad

/-- In the second run the device gives the same events as in the first, and may fail
    when its clock is corrected. -/
structure FailsCorrections (T : W → W' → Prop) (env : Environment W H S ε)
    (env' : Environment W' H S ε) (bad : H) : Prop where
  nextEvent : Simulates (OnWorlds T) Eq (env.device.nextEvent bad) (env'.device.nextEvent bad)
  setFrequency : ∀ frequency, Simulates (OnWorlds T) SameOrFails
    (env.device.setFrequency bad frequency) (env'.device.setFrequency bad frequency)
  step : ∀ offset, Simulates (OnWorlds T) SameOrFails (env.device.step bad offset)
    (env'.device.step bad offset)
  stepAlone : ∀ offset, Aside T (env.device.step bad offset)

variable {T : W → W' → Prop} {env : Environment W H S ε} {env' : Environment W' H S ε}
  {wait : Waiter W ε} {wait' : Waiter W' ε} {b : ClockId} {bad : H}
  {o o' o₀ o₁ : Orchestrator H S} {s : EdgeSource} {c : Clock H S} {utcOffset : Duration}

/-! ### A device that gives no events -/

/-- The same clock, without the time of an edge in the second run. -/
def Flushed (c c' : Option (Clock H S)) : Prop := c' = c.map Clock.flushTimestamp

theorem sameLock_flushed : SameLock (Flushed : Option (Clock H S) → Option (Clock H S) → Prop) := by
  intro c c' h
  obtain rfl := Option.some.inj h
  exact ⟨rfl, rfl, fun _ _ => rfl⟩

theorem agree_flushed (o : Orchestrator H S) (b : ClockId) :
    Agree b Flushed o.flushTimestamps o.flushTimestamps := by
  refine ⟨rfl, fun _ _ => rfl, ?_⟩
  rw [Flushed, flushTimestamps, Registry.get?_map, Option.map_map]
  rfl

/-- The time of an event goes to a clock that has none in the second run. -/
theorem Agree.keeping {sample : Sample} (ho : Agree sample.source.clock Flushed o o')
    (hc : o.clocks.get? sample.source.clock = some c) :
    Agree sample.source.clock Flushed (o.keeping sample c) o' where
  setup := ho.setup.trans (setup_keeping hc).symm
  other id hid := (ho.other id hid).trans (Registry.get?_set_of_ne _ hid).symm
  known := by
    have hknown := ho.known
    rw [hc] at hknown
    rw [show (o.keeping sample c).clocks.get? sample.source.clock = _ from
      Registry.get?_set_self _ hc]
    exact hknown

/-- An ambiguous event is one that pairing calls so, unless the reference failed. -/
theorem pairEvent_of_ambiguous {event : EdgeEvent} {reference : Instant} {m m' : Machine W}
    (h : Returns (o.afterReading env s event (.ok reference)) m (.ok .ambiguous, o₁) m') :
    pairEvent event.time s.correction reference s.polarity s.window = .ok .ambiguous := by
  simp only [afterReading, pairAndKeep, returns_bind] at h
  obtain ⟨⟨kept, _⟩, _, ⟨pairing, _, hpair, hkept⟩, hresult⟩ := h
  obtain ⟨hpair, -⟩ := pair_returns hpair
  simp only [returns_pure, Prod.mk.injEq, Except.ok.injEq] at hresult
  obtain ⟨⟨rfl, -⟩, -⟩ := hresult
  cases pairing with
  | ambiguous => exact hpair
  | sample offset localTime =>
    cases hc : o.clocks.get? s.clock <;> simp [hc] at hkept

section NoEvents

variable (hno : GivesNoEvents T env env' o₀ s bad)
include hno

/-- The clock is corrected in the first run alone. -/
theorem correctOne_withoutEvents (ho : Agree s.clock Flushed o o')
    (hhandle : ∀ c, o.clocks.get? s.clock = some c → c.handle = bad) (sourceTime : Instant) :
    Simulates (OnWorlds T) (fun _ _ => True) (o.correctOne env sourceTime s.clock)
      (o'.correctOne env' sourceTime s.clock) := by
  refine simulates_apart (aside_correctOne hno.alone hhandle sourceTime) ?_
  have hknown := ho.known
  unfold correctOne
  cases hc : o.clocks.get? s.clock with
  | none =>
    rw [hc] at hknown
    rw [show o'.clocks.get? s.clock = none from hknown]
    exact idle_pure _
  | some c =>
    rw [hc] at hknown
    rw [show o'.clocks.get? s.clock = some c.flushTimestamp from hknown]
    dsimp only
    split
    · exact idle_pure _
    · exact (idle_log _ _).bind fun _ => idle_pure _

variable (href : o₀.reference = .generic utcOffset)
include href

/-- What the first run takes is not ambiguous. -/
theorem GivesNoEvents.ne_ambiguous (hsame : o.setup = o₀.setup)
    {answer : Except ε (Option EdgeEvent)} {result : Except (EventError ε) Pairing}
    {m m₁ m' : Machine W} {w' : W'} (hT : T m.world w')
    (hnext : Returns (env.device.nextEvent bad) m answer m₁)
    (h : Returns (o.afterTaking env s (s.sift answer)) m₁ (result, o₁) m') :
    result ≠ .ok .ambiguous := by
  rintro rfl
  have hrefo : o.reference = o₀.reference := reference_of_setup_eq hsame
  cases htaken : s.sift answer with
  | error e =>
    rw [htaken] at h
    simp [afterTaking] at h
  | ok event =>
    obtain ⟨rfl, hchannel⟩ := EdgeSource.sift_eq_ok htaken
    rw [htaken] at h
    obtain ⟨reading, m₂, hnow, hafter⟩ := returns_bind.mp h
    have hnow₀ : Returns (o₀.reference.now env o₀.clocks) m₁ reading m₂ := by
      rw [hrefo, href] at hnow
      rw [href]
      exact hnow
    cases reading with
    | ok reference =>
      exact hno.accepted m w' event m₁ reference m₂ hT hnext hchannel hnow₀
        (pairEvent_of_ambiguous hafter)
    | error e =>
      -- the time of the system can always be read
      rw [href] at hnow₀
      simp [Reference.now] at hnow₀

omit hno in
/-- The reference is read by reading the time of the system. -/
theorem CaughtUp.afterTaking {answer : Except ε (Option EdgeEvent)}
    {m₁ m' : Machine W} {w' : W'} {x : Except (EventError ε) Pairing × Orchestrator H S}
    (hcaught : CaughtUp T env s answer m₁ w') (hsame : o.setup = o₀.setup)
    (h : Returns (o.afterTaking env s (s.sift answer)) m₁ x m') : T m'.world w' := by
  cases htaken : s.sift answer with
  | error e =>
    rw [htaken] at h
    obtain ⟨-, rfl⟩ := returns_pure.mp h
    exact hcaught.refused (EdgeSource.refuses_iff.mpr ⟨e, htaken⟩)
  | ok event =>
    have hused : ¬s.Refuses answer := by
      rw [EdgeSource.refuses_iff, htaken]
      rintro ⟨e, ⟨⟩⟩
    rw [htaken] at h
    obtain ⟨reading, m₂, hnow, hafter⟩ := returns_bind.mp h
    rw [reference_of_setup_eq hsame, href] at hnow
    obtain ⟨time, k, htime, hadded⟩ := returns_bind.mp hnow
    have hk : T k.world w' := hcaught.taken hused time k htime
    have hadd : Aside T (Action.checked (time.add utcOffset) >>= fun t =>
        pure (.ok t) : Action W (Except (ReferenceError ε) Instant)) :=
      (aside_checked _).bind fun _ => aside_pure _
    exact aside_afterReading o s event reading _ w' _ _ (hadd k w' _ _ hk hadded) hafter

/-- The first run goes on alone with an event that the second one does not get. -/
theorem event_withoutEvents (ho : Agree s.clock Flushed o o') (hsame : o.setup = o₀.setup)
    (hc : o.clocks.get? s.clock = some c) (hbad : c.handle = bad) :
    Simulates (OnWorlds T)
      (fun x y => x.1 ≠ .ok .ambiguous ∧ (∃ e, y.1 = .error e) ∧ Agree s.clock Flushed x.2 y.2)
      (o.handleEvent env s) (o'.handleEvent env' s) := by
  subst hbad
  have hc' : o'.clocks.get? s.clock = some c.flushTimestamp := by
    have hknown := ho.known
    rwa [hc] at hknown
  intro m n ⟨result, o₁⟩ m' hT hrun
  have hcases := handleEvent_cases hrun
  -- both runs ask the device; the second one is done then
  rw [handleEvent_eq hc] at hrun
  rw [handleEvent_eq hc']
  obtain ⟨answer, m₁, hnext, hrest⟩ := returns_bind.mp hrun
  obtain ⟨answer', n₁, hnext', hrefused, hcaught⟩ := hno.turn m n answer m₁ hT hnext
  obtain ⟨e, he⟩ := EdgeSource.refuses_iff.mp hrefused
  have hrest' : Returns (o'.afterTaking env' s (s.sift answer')) n₁ (.error e, o') n₁ := by
    rw [he]
    exact returns_pure.mpr ⟨rfl, rfl⟩
  refine ⟨_, n₁, returns_bind.mpr ⟨answer', n₁, hnext', hrest'⟩,
    ⟨hno.ne_ambiguous href hsame hT hnext hrest, ⟨e, rfl⟩, ?_⟩,
    hcaught.afterTaking href hsame hrest⟩
  rcases hcases with ⟨sample, c₀, rfl, haccepts, -, rfl⟩ | ⟨rfl, -⟩
  · exact ho.keeping haccepts.1
  · exact ho

/-- The source counts as handled in both runs, and nothing is ambiguous for it. -/
theorem turn_withoutEvents (ho : Agree s.clock Flushed o o') (hsame : o.setup = o₀.setup)
    (hc : o.clocks.get? s.clock = some c) (hbad : c.handle = bad) {index : Nat}
    (hs : o.sources[index]? = some s) (p : Progress) :
    Simulates (OnWorlds T) (fun x y => x.1 = y.1 ∧ Agree s.clock Flushed x.2 y.2)
      (o.handleReady env p [index]) (o'.handleReady env' p [index]) := by
  simp only [handleReady, hs, ho.source hs]
  refine (event_withoutEvents hno href ho hsame hc hbad).bind ?_
  rintro ⟨result, o₁⟩ ⟨_, o₁'⟩ ⟨hresult, ⟨e, rfl⟩, ho₁⟩
  have hmarked : Simulates (OnWorlds T) (fun x y => x.1 = y.1 ∧ Agree s.clock Flushed x.2 y.2)
      (pure (⟨p.handled.set index true, p.ambiguous⟩, o₁) : Action W (Progress × Orchestrator H S))
      (pure (⟨p.handled.set index true, p.ambiguous⟩, o₁') :
        Action W' (Progress × Orchestrator H S)) := simulates_pure ⟨rfl, ho₁⟩
  simp only [pure_bind]
  rcases result with e' | (⟨offset, localTime⟩ | _)
  · exact (hmarked.logSecond _ _).logFirst _ _
  · exact hmarked.logSecond _ _
  · exact absurd rfl hresult

end NoEvents

/-! ### A device that fails when its clock is corrected -/

section Failing

variable (hl : Lockstep (OnWorlds T) env env' (· ≠ bad)) (hfails : FailsCorrections T env env' bad)

include hfails in
theorem adjust_failing (offset : Duration) (frequency : Float) (state : ServoState) :
    Simulates (OnWorlds T) (fun _ _ => True) (adjust env bad offset frequency state)
      (adjust env' bad offset frequency state) := by
  unfold adjust
  split
  · refine (hfails.setFrequency frequency).bind fun x y hxy => ?_
    rcases hxy with rfl | ⟨e, rfl⟩
    · cases y with
      | error e => exact simulates_pure trivial
      | ok =>
        exact (simulates_checked _).bindEq fun back =>
          (hfails.step back).mono fun _ _ _ => trivial
    · cases x with
      | error e' => exact simulates_pure trivial
      -- only the first run has got as far as the step
      | ok =>
        exact simulates_apart ((aside_checked _).bind fun back => hfails.stepAlone back)
          (idle_pure _)
  · exact (hfails.setFrequency frequency).mono fun _ _ _ => trivial

include hl hfails

theorem steer_failing (id : ClockId) (hbad : c.handle = bad) (offset : Duration) (t : Instant)
    (weight : Float) :
    Simulates (OnWorlds T) (fun _ _ => True) (steer env id c offset t weight)
      (steer env' id c offset t weight) := by
  subst hbad
  refine (hl.sample c.servo offset.nanos t.nanos weight).bindEq fun answer => ?_
  obtain ⟨⟨adjustment, state⟩, servo⟩ := answer
  dsimp only
  rw [hl.frequency]
  refine (hl.log _ _).bindEq fun _ => ?_
  split
  · exact simulates_pure trivial
  · refine (adjust_failing hfails offset _ state).bind fun x y _ => simulates_apart ?_ ?_
    · cases x with
      | ok => exact aside_pure _
      | error e => exact (aside_log _ _).bind fun _ => aside_pure _
    · cases y with
      | ok => exact idle_pure _
      | error e => exact (idle_log _ _).bind fun _ => idle_pure _

theorem correctOne_failing (hhandle : ∀ c, o.clocks.get? b = some c → c.handle = bad)
    (sourceTime : Instant) :
    Simulates (OnWorlds T) (fun _ _ => True) (o.correctOne env sourceTime b)
      (o.correctOne env' sourceTime b) := by
  unfold correctOne
  cases hc : o.clocks.get? b with
  | none => exact simulates_pure trivial
  | some c =>
    dsimp only
    split
    · exact simulates_pure trivial
    · cases c.timestamp with
      | none => exact (hl.log _ _).bindEq fun _ => simulates_pure trivial
      | some t =>
        have hsync : Simulates (OnWorlds T) (fun _ _ => True)
            (synchronizeClock env b c.flushTimestamp t sourceTime o.config.sampleWeight)
            (synchronizeClock env' b c.flushTimestamp t sourceTime o.config.sampleWeight) := by
          refine (simulates_checked _).bindEq fun offset => ?_
          dsimp only
          split
          · exact (hl.log _ _).bindEq fun _ => simulates_pure trivial
          · exact steer_failing hl hfails b
              (c := { c.flushTimestamp with lastOffset := some offset }) (hhandle c hc) offset t _
        exact hsync.bind fun _ _ _ => simulates_pure trivial

end Failing

/-! ### The whole cycle -/

/-- The clock of a source keeps its device. -/
theorem own_handle (hc : o.clocks.get? s.clock = some c) (hsame : o₁.setup = o.setup) :
    ∀ c₁, o₁.clocks.get? s.clock = some c₁ → c₁.handle = c.handle := by
  intro c₁ hc₁
  obtain ⟨c₀, hc₀, hhandle⟩ := (SameDevices.of_setup_eq hsame).get? hc₁
  obtain rfl := Option.some.inj (hc₀.symm.trans hc)
  exact hhandle

theorem Separate.others (hsep : o.Separate) (hs : s ∈ o.sources)
    (hc : o.clocks.get? s.clock = some c) :
    ∀ s' ∈ o.sources, s'.clock ≠ s.clock → ∀ c', o.clocks.get? s'.clock = some c' →
      c'.handle ≠ c.handle :=
  fun s' hs' hne c' hc' => hsep.devices s' hs' s hs hne c' c hc' hc

section Cycles

variable (hports : o.topology = none) (href : o.reference = .generic utcOffset)
  (hsep : o.Separate) (hs : s ∈ o.sources) (hc : o.clocks.get? s.clock = some c)
  (hl : Lockstep (OnWorlds T) env env' (· ≠ c.handle))
  (hwait : ∀ timeout, Simulates (OnWorlds T) Eq (wait timeout) (wait' timeout))
include hports href hsep hs hc hl hwait

theorem cycle_withoutEvents (hno : GivesNoEvents T env env' o s c.handle) :
    Simulates (OnWorlds T) (SameOutcome s.clock) (o.runCycle env wait) (o.runCycle env' wait') := by
  have hcorrect : ∀ o₁ o₁' sourceTime, Agree s.clock Flushed o₁ o₁' → o₁.setup = o.setup →
      Simulates (OnWorlds T) (fun _ _ => True) (o₁.correctOne env sourceTime s.clock)
        (o₁'.correctOne env' sourceTime s.clock) :=
    fun o₁ o₁' sourceTime ho hsame =>
      correctOne_withoutEvents hno ho (own_handle hc hsame) sourceTime
  refine cycle_apart href hl (hsep.others hs hc) hports hcorrect sameLock_flushed
    (agree_flushed o s.clock) hwait ?_
  intro o₁ o₁' p index s' ho hsame hs' hclock
  obtain rfl : s' = s := hsep.eq_of_clock_eq
    (sources_of_setup_eq hsame ▸ List.mem_of_getElem? hs') hs hclock
  obtain ⟨c₁, hc₁, -⟩ := (SameDevices.of_setup_eq hsame).symm.get? hc
  exact turn_withoutEvents hno href ho hsame hc₁ (own_handle hc hsame c₁ hc₁) hs' p

theorem cycle_failing (hfails : FailsCorrections T env env' c.handle) :
    Simulates (OnWorlds T) (SameOutcome s.clock) (o.runCycle env wait) (o.runCycle env' wait') := by
  have hcorrect : ∀ o₁ o₁' sourceTime, Agree s.clock Eq o₁ o₁' → o₁.setup = o.setup →
      Simulates (OnWorlds T) (fun _ _ => True) (o₁.correctOne env sourceTime s.clock)
        (o₁'.correctOne env' sourceTime s.clock) := by
    intro o₁ o₁' sourceTime ho hsame
    rw [ho.eq]
    exact correctOne_failing hl hfails (own_handle hc hsame) sourceTime
  refine cycle_apart href hl (hsep.others hs hc) hports hcorrect sameLock_eq (.refl s.clock _)
    hwait ?_
  intro o₁ o₁' p index s' ho hsame hs' hclock
  rw [ho.eq]
  refine turn_simulates hl hs' hs' (handleEvent_simulates hl (.refl s.clock o₁) s' (.inr rfl)
    (fun c₁ hc₁ => ?_) fun id c₁ hphc _ => absurd hphc (ne_phc href hsame id)) p
  rw [hclock] at hc₁
  rw [own_handle hc hsame c₁ hc₁]
  exact hfails.nextEvent

end Cycles

section Noting

variable [DecidableEq H]

theorem GivesNoEvents.noting (hno : GivesNoEvents T env env' o s bad)
    (href : o.reference = .generic utcOffset) :
    GivesNoEvents (Elsewhere T bad) env.noting env'.noting o s bad where
  turn := by
    rintro m n answer m₁ ⟨hT, hcalls⟩ hnext
    obtain ⟨k, hbare, rfl⟩ := returns_recording_iff.mp hnext
    obtain ⟨answer', l, hbare', hrefused, hcaught⟩ := hno.turn m.bare n.bare answer k hT hbare
    have hcalls' (device : H) (hne : device ≠ bad) :
        CallLog.on (n.world.2 ++ [(bad, .event answer')]) device =
          CallLog.on (m.world.2 ++ [(bad, .event answer)]) device := by
      simp only [CallLog.on_append, CallLog.on_other hne.symm, List.append_nil]
      exact hcalls device hne
    refine ⟨answer', _, returns_recording_iff.mpr ⟨l, hbare', rfl⟩, hrefused,
      fun h => ⟨hcaught.refused h, hcalls'⟩, fun h time m₂ htime => ?_⟩
    obtain ⟨k₂, hread, rfl⟩ := returns_beside_iff.mp htime
    exact ⟨hcaught.taken h time k₂ hread, hcalls'⟩
  accepted m w' event m₁ reference m₂ hT hnext hchannel hnow := by
    obtain ⟨k, hbare, rfl⟩ := returns_recording_iff.mp hnext
    rw [href] at hnow
    simp only [Reference.now, returns_bind, returns_checked, returns_pure] at hnow
    obtain ⟨utc, _, htime, t, _, ⟨hadd, rfl⟩, hreading, -⟩ := hnow
    obtain ⟨l, htime, -⟩ := returns_beside_iff.mp htime
    refine hno.accepted m.bare w'.1 event k reference l hT.1 hbare hchannel ?_
    rw [href]
    exact returns_bind.mpr ⟨utc, l, htime, returns_bind.mpr
      ⟨t, l, returns_checked.mpr ⟨hadd, rfl⟩, returns_pure.mpr ⟨hreading, rfl⟩⟩⟩
  alone := hno.alone.noting

theorem FailsCorrections.noting (hfails : FailsCorrections T env env' bad) :
    FailsCorrections (Elsewhere T bad) env.noting env'.noting bad where
  nextEvent := hfails.nextEvent.recordingBad
  setFrequency frequency := (hfails.setFrequency frequency).recordingBad
  step offset := (hfails.step offset).recordingBad
  stepAlone offset := (hfails.stepAlone offset).recording

end Noting

/-- Let a cycle without ports, on a generic reference, be run twice, with the same answers
    of the poller and, where both read it, of the reference.  The sources have clocks and
    devices of their own, and all devices but that of one source answer the same.  That
    device either gives events that are accepted in the first run, and none of use in the
    second; or it gives the same events in both, and fails to be corrected in the second.

    If the first run ends, so does the second; the result is the same but for reports on
    the one clock, all other clocks are left the same with their servos, and their devices
    have been asked the same with the same answers. -/
theorem fault_isolation [DecidableEq H] {m m' : Machine (W × CallLog H ε)}
    {n : Machine (W' × CallLog H ε)} {result : Except (SyncError ε) (List ClockReport)}
    (hports : o.topology = none) (href : o.reference = .generic utcOffset) (hsep : o.Separate)
    (hs : s ∈ o.sources) (hc : o.clocks.get? s.clock = some c)
    (hl : Lockstep (OnWorlds T) env env' (· ≠ c.handle))
    (hwait : ∀ timeout, Simulates (OnWorlds T) Eq (wait timeout) (wait' timeout))
    (hfault : GivesNoEvents T env env' o s c.handle ∨ FailsCorrections T env env' c.handle)
    (hT : T m.world.1 n.world.1)
    (hcalls : ∀ h, h ≠ c.handle → n.world.2.on h = m.world.2.on h)
    (h : Returns (o.runCycle env.noting wait.beside) m (result, o₁) m') :
    ∃ result' o₁' n', Returns (o.runCycle env'.noting wait'.beside) n (result', o₁') n' ∧
      result'.map (otherReports s.clock) = result.map (otherReports s.clock) ∧
      (∀ id, id ≠ s.clock → o₁'.clocks.get? id = o₁.clocks.get? id) ∧
      (∀ h, h ≠ c.handle → n'.world.2.on h = m'.world.2.on h) ∧ T m'.world.1 n'.world.1 := by
  have hlnoted := elsewhere_lockstep hl
  have hwaits : ∀ timeout, Simulates (OnWorlds (Elsewhere T c.handle)) Eq
      ((wait.beside : Waiter (W × CallLog H ε) ε) timeout) (wait'.beside timeout) :=
    fun timeout => (hwait timeout).besideNotes
  have hcycle : Simulates (OnWorlds (Elsewhere T c.handle)) (SameOutcome s.clock)
      (o.runCycle env.noting wait.beside) (o.runCycle env'.noting wait'.beside) := by
    rcases hfault with hno | hfails
    · exact cycle_withoutEvents hports href hsep hs hc hlnoted hwaits (hno.noting href)
    · exact cycle_failing hports href hsep hs hc hlnoted hwaits hfails.noting
  obtain ⟨⟨result', o₁'⟩, n', hrun, ⟨hreports, ho⟩, hT', hcalls'⟩ :=
    hcycle m n _ m' ⟨hT, hcalls⟩ h
  exact ⟨result', o₁', n', hrun, hreports, ho.other, hcalls', hT'⟩

/-! ### One bad device on the bench -/

/-- The same events on both devices, all on the channel of the source. -/
def SameEvents (d d' : Bench.Device) : Prop :=
  d'.events = d.events ∧ d.failing = [] ∧ d'.failing = [] ∧ ∀ e ∈ d.events, e.channel = 0

theorem sameEvents_dropEvent {d d' : Bench.Device} (h : SameEvents d d') :
    SameEvents (dropEvent d) (dropEvent d') := by
  obtain ⟨hevents, hd, hd', hchannel⟩ := h
  rw [dropEvent_of_failing_nil hd, dropEvent_of_failing_nil hd']
  exact ⟨congrArg List.tail hevents, hd, hd', fun e he => hchannel e (List.mem_of_mem_tail he)⟩

/-- The device is asked in vain in the second run.  In the first run the time is read once
    more for each of its events, which takes as long. -/
theorem deafBench_givesNoEvents :
    GivesNoEvents (BenchApart SameEvents 1) movingBench (deafBench 1) twoSteered
      (.usual "eth1" ⟨1⟩) 1 where
  turn m n answer m₁ hT hnext := by
    rw [movingBench_nextEvent, returns_perform] at hnext
    obtain ⟨rfl, rfl⟩ := hnext
    have hdropped := hT.modifyOwn fun _ _ => sameEvents_dropEvent
    obtain ⟨d, d', hd, hd', hevents, hfailing, -, hchannel⟩ := hT.own
    have hanswer : eventOf m.world.devices[1]? = .ok d.events.head? := by
      simp [hd, eventOf, hfailing]
    have hqueued : n.world.queued 1 = d.events.length := by
      simp [Bench.World.queued, hd', hevents]
    refine ⟨_, _, deafBench_nextEvent 1 n, EdgeSource.refuses_iff.mpr ⟨_, rfl⟩, fun h => ?_,
      fun h time m₂ htime => ?_⟩
    · -- there is nothing to be read
      have hnone : ¬0 < n.world.queued 1 := by
        rw [hqueued]
        cases hlist : d.events with
        | nil => simp
        | cons e rest =>
          refine absurd (hchannel e (by simp [hlist])) (h e ?_)
          rw [hanswer, hlist, List.head?_cons]
      simpa only [missed, if_neg hnone] using hdropped
    · have hsome : 0 < n.world.queued 1 := by
        rw [hqueued]
        refine List.length_pos_of_ne_nil fun hnil => h fun event heq => ?_
        rw [hanswer, hnil] at heq
        cases heq
      rw [movingBench_systemTime, returns_perform] at htime
      obtain ⟨-, rfl⟩ := htime
      simpa only [missed, if_pos hsome] using hdropped.later
  accepted m w' event m₁ reference m₂ _ _ _ _ := by
    -- only rising edges come in, so none can be ambiguous
    rw [Ne, pairEvent_ambiguous_iff]
    rintro ⟨⟨⟩, -⟩
  alone := movingBench_aloneWith (fun _ _ _ h => h) fun _ _ _ h => h

/-- The second device has the same events, and fails when its clock is corrected. -/
def Refusing (d d' : Bench.Device) : Prop :=
  d'.events = d.events ∧ d.failing.contains .nextEvent = d'.failing.contains .nextEvent ∧
    d'.failing.contains .setFrequency = true ∧ d'.failing.contains .step = true

theorem refusing_failsCorrections :
    FailsCorrections (BenchApart Refusing 1) movingBench movingBench 1 where
  nextEvent := by
    refine nextEvent_own (fun d d' h => ?_) fun d d' h => ?_
    · unfold dropEvent
      rw [h.2.1]
      split
      · exact h
      · exact ⟨congrArg List.tail h.1, h.2⟩
    · rw [eventOf, eventOf, h.1, h.2.1]
  setFrequency frequency := command_refused _ _ (fun _ _ h => h) (fun _ _ h => h.2.2.1)
    fun _ e => .inr ⟨e, rfl⟩
  step offset := command_refused _ _ (fun _ _ h => h) (fun _ _ h => h.2.2.2)
    fun _ e => .inr ⟨e, rfl⟩
  stepAlone offset := command_aside _ _ fun _ _ h => h

/-- Two edges, on devices the second of which fails at these requests. -/
def twoEdgesFailing (failing : List Bench.Method) :
    Machine (Bench.World × CallLog Nat Bench.Failure) where
  world := ({
    devices := [{ name := "eth0", events := [⟨0, ⟨1000000000400⟩⟩] },
      { name := "eth1", index := 1, failing := failing, events := [⟨0, ⟨999999999300⟩⟩] }]
    systemTime := ⟨1000000000000⟩
    script := [some [0, 1]] }, [])
  journal := #[]

theorem twoEdgesFailing_apart {D : Bench.Device → Bench.Device → Prop}
    {failing : List Bench.Method}
    (hD : D { name := "eth1", index := 1, events := [⟨0, ⟨999999999300⟩⟩] }
      { name := "eth1", index := 1, failing := failing, events := [⟨0, ⟨999999999300⟩⟩] }) :
    BenchApart D 1 (twoEdgesFailing []).world.1 (twoEdgesFailing failing).world.1 where
  devices p hp := by
    rcases p with _ | _ | p
    · rfl
    · exact absurd rfl hp
    · rfl
  own := ⟨_, _, rfl, rfl, hD⟩
  systemTime := rfl
  script := rfl
  waits := rfl

/-- Whether a cycle ends with a report on each of two clocks. -/
def reportsEach : Except Fault (Except (SyncError Bench.Failure) (List ClockReport) ×
      Orchestrator Nat PiServo) → Bool
  | .ok (.ok [first, second], _) => first.clock == ⟨0⟩ && second.clock == ⟨1⟩
  | _ => false

/-- A cycle ends with one report besides those on the second clock, and leaves the first
    clock like this, its device having been asked this. -/
def LeavesFirst (env : Environment Bench.World Nat PiServo Bench.Failure)
    (n : Machine (Bench.World × CallLog Nat Bench.Failure)) (first : ClockReport)
    (clock : Option (Clock Nat PiServo)) (calls : List (DeviceCall Bench.Failure)) : Prop :=
  ∃ (reports : List ClockReport) (o₁ : Orchestrator Nat PiServo)
    (n' : Machine (Bench.World × CallLog Nat Bench.Failure)),
    Returns (twoSteered.runCycle env.noting (Bench.wait []).beside) n (.ok reports, o₁) n' ∧
    otherReports ⟨1⟩ reports = [first] ∧ o₁.clocks.get? ⟨0⟩ = clock ∧ n'.world.2.on 0 = calls

/-- The first clock is reported on and left as it would be without a fault, when the second
    one can not be asked for events, and when it can not be corrected.  The reference shows
    another time whenever it is read. -/
theorem fault_isolation_oneBadDevice :
    ∃ (first second : ClockReport) (o' : Orchestrator Nat PiServo)
      (m' : Machine (Bench.World × CallLog Nat Bench.Failure)),
      first.clock = ⟨0⟩ ∧ second.clock = ⟨1⟩ ∧
      Returns (twoSteered.runCycle movingBench.noting (Bench.wait []).beside)
        (twoEdgesFailing []) (.ok [first, second], o') m' ∧
      LeavesFirst (deafBench 1) (twoEdgesFailing []) first (o'.clocks.get? ⟨0⟩)
        (m'.world.2.on 0) ∧
      LeavesFirst movingBench (twoEdgesFailing [.setFrequency, .step]) first
        (o'.clocks.get? ⟨0⟩) (m'.world.2.on 0) := by
  have hcheck : reportsEach ((twoSteered.runCycle movingBench.noting
      (Bench.wait []).beside).outcome (twoEdgesFailing [])).1 = true := by decide +kernel
  unfold reportsEach at hcheck
  split at hcheck
  · next first second o' hresult =>
    simp only [Bool.and_eq_true, beq_iff_eq] at hcheck
    obtain ⟨hfirst, hsecond⟩ := hcheck
    obtain ⟨m', hrun⟩ : ∃ m', Returns (twoSteered.runCycle movingBench.noting
        (Bench.wait []).beside) (twoEdgesFailing []) (.ok [first, second], o') m' :=
      ⟨_, returns_of_outcome hresult⟩
    -- the other run ends with a result that is the same but for the second clock
    have hleaves {env : Environment Bench.World Nat PiServo Bench.Failure}
        {n n' : Machine (Bench.World × CallLog Nat Bench.Failure)}
        {result' : Except (SyncError Bench.Failure) (List ClockReport)}
        {o₁ : Orchestrator Nat PiServo}
        (hrun' : Returns (twoSteered.runCycle env.noting (Bench.wait []).beside) n
          (result', o₁) n')
        (hreports : result'.map (otherReports ⟨1⟩) =
          Except.map (otherReports ⟨1⟩) (.ok [first, second]))
        (hclock : o₁.clocks.get? ⟨0⟩ = o'.clocks.get? ⟨0⟩)
        (hcalls : n'.world.2.on 0 = m'.world.2.on 0) :
        LeavesFirst env n first (o'.clocks.get? ⟨0⟩) (m'.world.2.on 0) := by
      cases result' with
      | error e => cases hreports
      | ok reports =>
        refine ⟨reports, o₁, n', hrun', ?_, hclock, hcalls⟩
        rw [Except.ok.inj hreports]
        simp [otherReports, hfirst, hsecond]
    refine ⟨first, second, o', m', hfirst, hsecond, hrun, ?_, ?_⟩
    · obtain ⟨result', o₁, n', hrun', hreports, hclocks, hcalls, -⟩ :=
        fault_isolation (s := .usual "eth1" ⟨1⟩) (n := twoEdgesFailing []) rfl rfl
          twoSteered_separate (by simp [twoSteered]) rfl (deafBench_lockstep SameEvents 1)
          wait_simulates (.inl deafBench_givesNoEvents)
          (twoEdgesFailing_apart ⟨rfl, rfl, rfl, by simp⟩) (fun _ _ => rfl) hrun
      exact hleaves hrun' hreports (hclocks ⟨0⟩ (by decide)) (hcalls 0 (by decide))
    · obtain ⟨result', o₁, n', hrun', hreports, hclocks, hcalls, -⟩ :=
        fault_isolation (s := .usual "eth1" ⟨1⟩) (n := twoEdgesFailing [.setFrequency, .step])
          rfl rfl twoSteered_separate (by simp [twoSteered]) rfl
          (movingBench_lockstep Refusing 1) wait_simulates (.inr refusing_failsCorrections)
          (twoEdgesFailing_apart ⟨rfl, by decide, by decide, by decide⟩) (fun _ _ => rfl) hrun
      exact hleaves hrun' hreports (hclocks ⟨0⟩ (by decide)) (hcalls 0 (by decide))
  · cases hcheck

end Orchestrator

end ClockDiscipline
