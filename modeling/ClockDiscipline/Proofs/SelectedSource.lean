/-
  ClockDiscipline/Proofs/SelectedSource.lean
  ==========================================
  **The clock that is selected as the source is not corrected.**

  Being selected takes the flag of a destination from a clock, but it can get
  the flag back: a source that listens to the clock may be added while it is
  selected.  What spares it then is its timestamp, which is taken off it before
  the first clock is corrected.  So it is not due when its turn comes, and as
  all other clocks have other devices, nothing is asked of its own but resets
  (`source_spared`).
-/
import ClockDiscipline.Bench.Environment
import ClockDiscipline.Proofs.ClockLife
import ClockDiscipline.Proofs.LiveHandles

namespace ClockDiscipline

open ClockDiscipline.Action

variable {W H S ε α β : Type} {env : Environment W H S ε} {wait : Waiter W ε}
  {m m' : Machine (W × Record ε)} {number : Nat}

/-! ### Steps that spare a device -/

namespace Action

/-- However the step ends, it puts nothing on record for the device of this number
    but resets of its servo. -/
def Spares (number : Nat) (a : Action (W × Record ε) α) (m : Machine (W × Record ε)) : Prop :=
  ∃ added, Adds m added (a.outcome m).2 ∧ ∀ request ∈ Record.of added number, request = .reset

theorem spares_of_quiet {a : Action (W × Record ε) α}
    (h : (a.outcome m).2.world.2 = m.world.2) : Spares number a m :=
  ⟨[], by rw [Adds, h, List.append_nil], by simp [Record.of]⟩

theorem spares_pure (x : α) : Spares number (pure x : Action (W × Record ε) α) m :=
  spares_of_quiet rfl

theorem spares_log (severity : Severity) (text : String) :
    Spares number (Action.log severity text : Action (W × Record ε) Unit) m :=
  spares_of_quiet rfl

theorem spares_checked (x : Checked α) :
    Spares number (checked x : Action (W × Record ε) α) m :=
  spares_of_quiet (by rw [outcome_checked])

theorem spares_beside (a : Action W α) :
    Spares number (a.beside : Action (W × Record ε) α) m :=
  spares_of_quiet rfl

/-- A request is made of another device, or it is a reset. -/
theorem spares_recording {a : Action W α} {note : α → Numbered (ClockRequest ε)}
    (h : ∀ x, (note x).number = number → (note x).value = .reset) :
    Spares number (a.recording note) m := by
  have houtcome := outcome_recording a note m
  cases hrun : a.outcome ⟨m.world.1, m.journal⟩ with
  | mk result next =>
    rw [hrun] at houtcome
    cases result with
    | error e => exact spares_of_quiet (by rw [houtcome])
    | ok x =>
      refine ⟨[note x], by rw [houtcome]; rfl, ?_⟩
      simpa [Record.of] using h x

theorem Spares.bind {a : Action (W × Record ε) α} {f : α → Action (W × Record ε) β}
    (ha : Spares number a m)
    (hf : ∀ x m₁, Returns a m x m₁ → Spares number (f x) m₁) : Spares number (a >>= f) m := by
  obtain ⟨first, hfirst, hspared⟩ := ha
  cases hrun : a.outcome m with
  | mk result m₁ =>
    rw [hrun] at hfirst
    cases result with
    | error e => exact ⟨first, by rwa [outcome_bind, hrun], hspared⟩
    | ok x =>
      obtain ⟨rest, hrest, hspared'⟩ := hf x m₁ hrun
      refine ⟨first ++ rest, ?_, fun request hrequest => ?_⟩
      · rw [outcome_bind, hrun]
        exact hfirst.trans hrest
      · rw [Record.of_append] at hrequest
        exact (List.mem_append.mp hrequest).elim (hspared request) (hspared' request)

/-- A quiet step that returns from here. -/
theorem Returns.spares {a : Action (W × Record ε) α} {x : α} (h : Returns a m x m')
    (hquiet : Quiet a) : Spares number a m :=
  spares_of_quiet (by rw [h]; exact hquiet m x m' h)

end Action

/-! ### Phases of a cycle that spare every device -/

theorem spares_now (reference : Reference) (clocks : Registry (Numbered H) (Numbered S)) :
    Spares number (reference.now env.recorded clocks) m := by
  cases reference with
  | generic utcOffset =>
    exact (spares_beside _).bind fun _ _ _ => (spares_checked _).bind fun _ _ _ => spares_pure _
  | phc id =>
    unfold Reference.now
    dsimp only
    split
    · exact spares_pure _
    · exact (spares_beside _).bind fun _ _ _ => spares_pure _

theorem spares_edge (reference : Reference) (clocks : Registry (Numbered H) (Numbered S))
    (phase : Duration) : Spares number (reference.edge env.recorded clocks phase) m := by
  refine (spares_now reference clocks).bind fun reading _ _ => ?_
  cases reading with
  | error e => exact spares_pure _
  | ok t => exact (spares_checked _).bind fun _ _ _ => spares_pure _

namespace EdgeSource

theorem spares_takeEvent (source : EdgeSource) (handle : Numbered H) :
    Spares number (source.takeEvent env.recorded handle) m := by
  refine (spares_beside _).bind fun next _ _ => ?_
  rcases next with e | _ | event
  · exact spares_pure _
  · exact spares_pure _
  · dsimp only
    split
    · exact spares_pure _
    · exact spares_pure _

theorem spares_pair (source : EdgeSource) (event : EdgeEvent) (reference : Instant) :
    Spares number (source.pair event reference : Action (W × Record ε) Pairing) m := by
  refine (spares_checked _).bind fun pairing _ _ => ?_
  split
  · exact (spares_log _ _).bind fun _ _ _ => spares_pure _
  · exact spares_pure _

end EdgeSource

namespace Orchestrator

variable {o o' o₁ : Orchestrator (Numbered H) (Numbered S)} {id : ClockId}

theorem spares_handleEvent (o : Orchestrator (Numbered H) (Numbered S)) (source : EdgeSource) :
    Spares number (o.handleEvent env.recorded source) m := by
  unfold handleEvent
  split
  · exact spares_pure _
  · refine (source.spares_takeEvent _).bind fun taken _ _ => ?_
    cases taken with
    | error e => exact spares_pure _
    | ok event =>
      refine (spares_now _ _).bind fun reading _ _ => ?_
      cases reading with
      | error e => exact (spares_log _ _).bind fun _ _ _ => spares_pure _
      | ok reference =>
        refine Spares.bind ?_ fun _ _ _ => spares_pure _
        refine (source.spares_pair event reference).bind fun pairing _ _ => ?_
        split
        · exact ((spares_log _ _).bind fun _ _ _ => spares_pure _).bind fun _ _ _ => spares_pure _
        · exact spares_pure _

theorem spares_handleReady (o : Orchestrator (Numbered H) (Numbered S)) (p : Progress)
    (ready : List Nat) : Spares number (o.handleReady env.recorded p ready) m := by
  induction ready generalizing o p m with
  | nil => exact spares_pure _
  | cons index ready ih =>
    unfold handleReady
    split
    · exact ih o p
    · refine (spares_handleEvent o _).bind fun ⟨result, o₁⟩ _ _ => ?_
      rcases result with e | _ | _
      · exact (spares_log _ _).bind fun _ _ _ => (spares_pure _).bind fun _ _ _ => ih _ _
      · exact (spares_pure _).bind fun _ _ _ => ih _ _
      · exact (spares_pure _).bind fun _ _ _ => ih _ _

theorem spares_unlockClocks (o : Orchestrator (Numbered H) (Numbered S)) (ids : List ClockId) :
    Spares number (o.unlockClocks env.recorded ids) m := by
  induction ids generalizing o m with
  | nil => exact spares_pure _
  | cons id ids ih =>
    unfold unlockClocks
    split
    · exact ih o
    · split
      · have hreset (servo : Numbered S) {m : Machine (W × Record ε)} :
            Spares number (env.recorded.servo.reset servo) m :=
          (spares_recording fun _ _ => rfl).bind fun _ _ _ => spares_pure _
        exact (spares_log _ _).bind fun _ _ _ =>
          ((hreset _).bind fun _ _ _ => spares_pure _).bind fun _ _ _ => ih _
      · exact ih o

theorem spares_collect (patience : Nat) (o : Orchestrator (Numbered H) (Numbered S))
    (p : Progress) : Spares number (collect env.recorded wait.beside patience o p) m := by
  induction patience generalizing o p m with
  | zero =>
    by_cases hall : p.handled.all id = true
    · rw [collect_handled hall]
      exact spares_pure _
    · rw [collect_impatient hall]
      exact spares_checked _
  | succ patience ih =>
    by_cases hall : p.handled.all id = true
    · rw [collect_handled hall]
      exact spares_pure _
    · rw [collect_waits hall]
      refine (spares_beside _).bind fun answer _ _ => ?_
      rcases answer with e | _ | ⟨first, ready⟩
      · exact spares_pure _
      · refine (spares_log _ _).bind fun _ _ _ => ?_
        split
        · exact spares_pure _
        · exact (spares_unlockClocks o _).bind fun _ _ _ => spares_pure _
      · exact (spares_handleReady o p _).bind fun _ _ _ => ih _ _

theorem spares_poll (o : Orchestrator (Numbered H) (Numbered S)) :
    Spares number (o.poll env.recorded wait.beside) m := by
  unfold poll
  split
  · refine (spares_beside _).bind fun answer _ _ => ?_
    cases answer with
    | error e => exact spares_pure _
    | ok ready => exact spares_pure _
  · exact spares_collect _ o _

theorem spares_collectReference (o : Orchestrator (Numbered H) (Numbered S)) :
    Spares number (o.collectReference env.recorded) m := by
  unfold collectReference
  split
  · exact spares_pure _
  · refine (spares_edge _ _ _).bind fun edge _ _ => ?_
    cases edge with
    | error e => exact spares_pure _
    | ok edge =>
      dsimp only
      split
      · exact spares_pure _
      · exact ((spares_log _ _).bind fun _ _ _ => spares_pure _).bind fun _ _ _ => spares_pure _

theorem spares_sourceTimestamp (o : Orchestrator (Numbered H) (Numbered S)) :
    Spares number (o.sourceTimestamp env.recorded) m := by
  unfold sourceTimestamp
  split
  · refine (spares_edge _ _ _).bind fun edge _ _ => ?_
    cases edge with
    | ok edge => exact spares_pure _
    | error e => exact (spares_log _ _).bind fun _ _ _ => spares_pure _
  · split
    · exact (spares_log _ _).bind fun _ _ _ => spares_pure _
    · split
      · exact spares_pure _
      · split
        · exact (spares_log _ _).bind fun _ _ _ => spares_pure _
        · exact spares_pure _

/-! ### Correcting other clocks -/

theorem spares_adjust {handle : Numbered H} (hother : handle.number ≠ number) (offset : Duration)
    (frequency : Float) (state : ServoState) :
    Spares number (adjust env.recorded handle offset frequency state) m := by
  have hfrequency {m : Machine (W × Record ε)} :
      Spares number (env.recorded.device.setFrequency handle frequency) m :=
    spares_recording fun _ hnumber => absurd hnumber hother
  unfold adjust
  split
  · refine hfrequency.bind fun answer _ _ => ?_
    cases answer with
    | error e => exact spares_pure _
    | ok =>
      exact (spares_checked _).bind fun _ _ _ =>
        spares_recording fun _ hnumber => absurd hnumber hother
  · exact hfrequency

theorem spares_synchronizeClock {c : Clock (Numbered H) (Numbered S)}
    (hdevice : c.handle.number ≠ number) (hservo : c.servo.number ≠ number) (id : ClockId)
    (t sourceTime : Instant) (weight : Float) :
    Spares number (synchronizeClock env.recorded id c t sourceTime weight) m := by
  refine (spares_checked _).bind fun offset _ _ => ?_
  dsimp only
  split
  · exact (spares_log _ _).bind fun _ _ _ => spares_pure _
  · have hsample {m : Machine (W × Record ε)} : Spares number
        (env.recorded.servo.sample c.servo offset.nanos t.nanos weight) m :=
      (spares_recording fun _ hnumber => absurd hnumber hservo).bind fun _ _ _ => spares_pure _
    refine hsample.bind fun ⟨⟨adjustment, state⟩, servo⟩ _ _ => ?_
    refine (spares_log _ _).bind fun _ _ _ => ?_
    split
    · exact spares_pure _
    · refine (spares_adjust hdevice _ _ _).bind fun adjusted _ _ => ?_
      cases adjusted with
      | ok => exact spares_pure _
      | error e => exact (spares_log _ _).bind fun _ _ _ => spares_pure _

/-- If the clock is due, its device and its servo have other numbers. -/
def DueElsewhere (number : Nat) (o : Orchestrator (Numbered H) (Numbered S)) (id : ClockId) :
    Prop :=
  ∀ c, o.clocks.get? id = some c → o.isDue id = true →
    c.handle.number ≠ number ∧ c.servo.number ≠ number

theorem spares_correctOne (hother : DueElsewhere number o id) (sourceTime : Instant) :
    Spares number (o.correctOne env.recorded sourceTime id) m := by
  unfold correctOne
  split
  · exact spares_pure _
  · next c hc =>
    split
    · exact spares_pure _
    · next hset =>
      split
      · exact (spares_log _ _).bind fun _ _ _ => spares_pure _
      · next t ht =>
        have hdue : o.isDue id = true :=
          isDue_eq_true_iff.mpr ⟨c, hc, by simpa using hset, t, ht⟩
        obtain ⟨hdevice, hservo⟩ := hother c hc hdue
        exact (spares_synchronizeClock (c := c.flushTimestamp) hdevice hservo id t sourceTime
          _).bind fun _ _ _ => spares_pure _

theorem spares_synchronizeClocks {ids : List ClockId} (hnodup : ids.Nodup)
    (hother : ∀ id ∈ ids, DueElsewhere number o id) (sourceTime : Instant) :
    Spares number (o.synchronizeClocks env.recorded sourceTime ids) m := by
  induction ids generalizing o m with
  | nil => exact spares_pure _
  | cons id ids ih =>
    obtain ⟨hid, hnodup⟩ := List.nodup_cons.mp hnodup
    rw [synchronizeClocks_cons]
    refine (spares_correctOne (hother id List.mem_cons_self) sourceTime).bind
      fun ⟨first, o₁⟩ _ hfirst => Spares.bind ?_ fun _ _ _ => spares_pure _
    -- the turn of a clock changes nothing for those that come later
    refine ih hnodup fun later hlater => ?_
    have hne : later ≠ id := fun heq => hid (heq ▸ hlater)
    have hget := correctOne_get?_of_ne hfirst hne
    intro c hc hdue
    rw [isDue, hget] at hdue
    exact hother later (List.mem_cons_of_mem _ hlater) c (hget ▸ hc) hdue

/-! ### Clocks that are passed over -/

/-- Once the time of the source has been taken, the clock is not due, now and as long
    as the setup stays as it is. -/
def PassesOver (env : Environment W H S ε) (o : Orchestrator (Numbered H) (Numbered S))
    (id : ClockId) : Prop :=
  ∀ (o' o₁ : Orchestrator (Numbered H) (Numbered S)) (m m' : Machine (W × Record ε)) edge,
    o'.setup = o.setup → Returns (o'.sourceTimestamp env.recorded) m (edge, o₁) m' →
      o₁.isDue id = false

theorem PassesOver.of_setup_eq (hpasses : o.PassesOver env id) (h : o'.setup = o.setup) :
    o'.PassesOver env id := by
  intro o₁ o₂ m m' edge hsame
  exact hpasses o₁ o₂ m m' edge (hsame.trans h)

/-- Correcting asks nothing of a clock that is passed over, since it is not due and no
    other clock has its device. -/
theorem PassesOver.spares_synchronize {c : Clock (Numbered H) (Numbered S)}
    (hpasses : o.PassesOver env id) (ho : Chronicle env m.world.2 o.clocks)
    (hc : o.clocks.get? id = some c) :
    Spares c.handle.number (o.synchronize env.recorded) m := by
  refine (spares_sourceTimestamp o).bind fun ⟨edge, o₁⟩ m₁ htaken => ?_
  cases edge with
  | none => exact spares_pure _
  | some t =>
    -- what is due is not this clock, and so has another device
    refine spares_synchronizeClocks (Registry.nodup_ids _) (fun other _ own hown hdue => ?_) t
    have hne : other ≠ id := by
      rintro rfl
      rw [hpasses o o₁ _ _ _ rfl htaken] at hdue
      cases hdue
    have hparts := parts_of_setup_eq (sourceTimestamp_setup htaken)
    obtain ⟨c₁, hc₁, hpart⟩ := Registry.get?_of_parts_eq hparts hc
    have hhandle : c₁.handle = c.handle := congrArg ClockPart.handle hpart
    have ho₁ := sourceTimestamp_chronicle ho htaken
    have hdevice : own.handle.number ≠ c.handle.number := by
      rw [← hhandle]
      exact fun hnumber => hne (ho₁.distinct other id own c₁ hown hc₁ hnumber)
    exact ⟨hdevice, (ho₁.clock other own hown).servo ▸ hdevice⟩

/-- No phase of a cycle asks anything of a clock that it passes over once the source is
    selected, but to reset its servo. -/
theorem PassesOver.spares_runCycle {selection : Option Selection}
    {c : Clock (Numbered H) (Numbered S)} (hpasses : o₁.PassesOver env id)
    (ho : Chronicle env m.world.2 o.clocks) (hselect : Returns o.reconfigure m (selection, o₁) m')
    (hc : o₁.clocks.get? id = some c) :
    Spares c.handle.number (o.runCycle env.recorded wait.beside) m := by
  -- the cycle begins by selecting just as `hselect` does
  refine (Returns.spares hselect (quiet_reconfigure o)).bind fun ⟨_, o'⟩ m₁ hreconfigured => ?_
  obtain ⟨hsame, rfl⟩ := hselect.unique hreconfigured
  obtain ⟨-, rfl⟩ := Prod.mk.inj hsame
  have ho₁ := flushTimestamps_chronicle (reconfigure_chronicle ho hselect)
  refine (spares_poll _).bind fun ⟨outcome, o₂⟩ m₂ hpoll => ?_
  have ho₂ := (poll_record ho₁ hpoll).1
  have hsetup₂ := (poll_setup hpoll).trans (setup_flushTimestamps o₁)
  rcases outcome with e | _ | _ | _
  · exact spares_pure _
  · refine (spares_collectReference o₂).bind fun ⟨stamped, o₃⟩ m₃ hstamp => ?_
    cases stamped with
    | error e => exact spares_pure _
    | ok =>
      have hsetup₃ := (collectReference_setup hstamp).trans hsetup₂
      obtain ⟨c₃, hc₃, hpart⟩ := Registry.get?_of_parts_eq (parts_of_setup_eq hsetup₃) hc
      have hhandle : c₃.handle = c.handle := congrArg ClockPart.handle hpart
      rw [← hhandle]
      exact ((hpasses.of_setup_eq hsetup₃).spares_synchronize
        (collectReference_chronicle ho₂ hstamp) hc₃).bind fun _ _ _ => spares_pure _
  · exact spares_pure _
  · exact spares_pure _

/-- A clock that a cycle passes over once the source is selected is not in its
    reports. -/
theorem PassesOver.not_reported {selection : Option Selection} {reports : List ClockReport}
    (hpasses : o₁.PassesOver env id) (hselect : Returns o.reconfigure m (selection, o₁) m')
    {m₁ : Machine (W × Record ε)}
    (h : Returns (o.runCycle env.recorded wait.beside) m (.ok reports, o') m₁) :
    ∀ report ∈ reports, report.clock ≠ id := by
  obtain ⟨_, o₂, m₂, outcome, o₃, m₃, hreconfigured, hpoll, h⟩ := runCycle_cases h
  obtain ⟨hsame, rfl⟩ := hselect.unique hreconfigured
  obtain ⟨-, rfl⟩ := Prod.mk.inj hsame
  have hsetup₃ := (poll_setup hpoll).trans (setup_flushTimestamps o₁)
  rcases h with ⟨-, hnone⟩ | ⟨-, stamped, o₄, m₄, hstamp, ⟨-, hfailed⟩ | ⟨-, _, hresult, hsync⟩⟩
  · rw [hnone reports rfl]
    simp
  · exact absurd rfl (hfailed reports)
  · cases hresult
    have hsetup₄ := (collectReference_setup hstamp).trans hsetup₃
    simp only [synchronize, returns_bind] at hsync
    obtain ⟨⟨edge, o₅⟩, m₅, htaken, hsync⟩ := hsync
    cases edge with
    | none =>
      simp only [returns_pure, Prod.mk.injEq] at hsync
      rw [hsync.1.1]
      simp
    | some t =>
      intro report hreport heq
      have hclocks := synchronizeClocks_clocks (Registry.nodup_ids _) hsync
      have hmem : id ∈ reports.map (·.clock) := List.mem_map.mpr ⟨report, hreport, heq⟩
      rw [hclocks, List.mem_filter, hpasses o₄ o₅ _ _ _ hsetup₄ htaken] at hmem
      exact Bool.false_ne_true hmem.2

/-! ### The source itself -/

/-- Once its timestamp has been taken, the source is not due. -/
theorem IsSource.not_due {edge : Option Instant} (hsource : o.IsSource id)
    (h : Returns (o.sourceTimestamp env.recorded) m (edge, o₁) m') : o₁.isDue id = false := by
  rw [Bool.eq_false_iff, ne_eq, isDue_eq_true_iff]
  rintro ⟨c₁, hc₁, -, t, ht⟩
  rw [(sourceTimestamp_ports hsource.1 h).2] at hc₁
  obtain ⟨c, -, rfl⟩ := Option.map_eq_some_iff.mp hc₁
  rw [if_pos hsource.2] at ht
  cases ht

theorem IsSource.of_setup_eq (hsource : o.IsSource id) (h : o'.setup = o.setup) :
    o'.IsSource id :=
  ⟨(topology_of_setup_eq h).symm ▸ hsource.1, (sourceClock_of_setup_eq h).trans hsource.2⟩

theorem IsSource.passesOver (hsource : o.IsSource id) : o.PassesOver env id := by
  intro o' o₁ m m' edge hsame htaken
  exact (hsource.of_setup_eq hsame).not_due htaken

/-- No phase of a cycle asks anything of the clock that the cycle has selected as
    the source, but to reset its servo. -/
theorem IsSource.spares_runCycle {selection : Option Selection}
    {c : Clock (Numbered H) (Numbered S)} (hsource : o₁.IsSource id)
    (ho : Chronicle env m.world.2 o.clocks) (hselect : Returns o.reconfigure m (selection, o₁) m')
    (hc : o₁.clocks.get? id = some c) :
    Spares c.handle.number (o.runCycle env.recorded wait.beside) m :=
  (hsource.passesOver).spares_runCycle ho hselect hc

/-- The clock that a cycle has selected as the source is not in its reports. -/
theorem IsSource.not_reported {selection : Option Selection} {reports : List ClockReport}
    (hsource : o₁.IsSource id) (hselect : Returns o.reconfigure m (selection, o₁) m')
    {m₁ : Machine (W × Record ε)}
    (h : Returns (o.runCycle env.recorded wait.beside) m (.ok reports, o') m₁) :
    ∀ report ∈ reports, report.clock ≠ id :=
  (hsource.passesOver).not_reported hselect h

/-! ### Any run -/

/-- What is done on record is done with the recorded environment. -/
theorem Operation.operates (h : Operation env o m o' m') :
    Operates env.recorded (fun _ => True) o m o' m' := by
  cases h with
  | openClock h => exact .openClock h
  | addSource h => exact .addSource h
  | addPort h => exact .addPort h
  | portStateChanged h => exact .portStateChanged h
  | reconfigure h => exact .reconfigure h
  | arm h => exact .arm h
  | poll h => exact .poll trivial h
  | collectReference h => exact .collectReference h
  | synchronize h => exact .synchronize h
  | runCycle h => exact .runCycle trivial h

theorem Run.held {record : Record ε} (h : Run env record o) :
    ∃ config clocks reference,
      Held env.recorded (Orchestrator.start config clocks reference) o := by
  induction h with
  | start config reference _ => exact ⟨config, _, reference, held_start config _ reference⟩
  | step _ hoperation ih =>
    obtain ⟨config, clocks, reference, hheld⟩ := ih
    exact ⟨config, clocks, reference, hheld.next hoperation.operates⟩

/-- After any operations, let a cycle select a clock as the source, or stay with the
    one that was selected before.  The clock is there and is not in the reports
    of the cycle, and however the cycle ends, it asks nothing of the device and
    the servo of this clock but to reset the servo. -/
theorem source_spared {record : Record ε} {selection : Option Selection} (h : Run env record o)
    (hrecord : m.world.2 = record) (hselect : Returns o.reconfigure m (selection, o₁) m')
    (hid : o₁.sourceClock = some id) (wait : Waiter W ε) :
    ∃ c, o₁.clocks.get? id = some c ∧ c.servo.number = c.handle.number ∧
      (∀ reports o' m₁, Returns (o.runCycle env.recorded wait.beside) m (.ok reports, o') m₁ →
        ∀ report ∈ reports, report.clock ≠ id) ∧
      ∃ added, ((o.runCycle env.recorded wait.beside).outcome m).2.world.2 = record ++ added ∧
        ∀ request ∈ Record.of added c.handle.number, request = .reset := by
  subst hrecord
  have ho := h.chronicle
  obtain ⟨_, _, _, hheld⟩ := h.held
  replace hheld := hheld.next (.reconfigure hselect)
  obtain ⟨c, hc⟩ := hheld.selected_live hid
  have hsource : o₁.IsSource id := ⟨hheld.topology_ne_none hid, hid⟩
  refine ⟨c, hc, ((reconfigure_chronicle ho hselect).clock id c hc).servo, ?_, ?_⟩
  · intro reports o' m₁ hcycle
    exact hsource.not_reported hselect hcycle
  · exact hsource.spares_runCycle ho hselect hc

/-! ### A source that is listened to -/

/-- The first device is selected as the source, and only then listened to.  An edge
    comes in on each device. -/
def listenToSource : Action (Bench.World × Record Bench.Failure)
    (Orchestrator (Numbered Nat) (Numbered Bench.Servo)) := do
  let env := (Bench.environment .prepared twoDevices).recorded
  let (_, o) ← (Orchestrator.start {} .empty (.generic .zero)).addPort env 1 "eth0" .slave
  let (_, o) ← o.addPort env 2 "eth1" .master
  let (_, o) ← o.reconfigure
  let (_, o) ← o.addSource env { device := "eth0" }
  let (_, o) ← o.addSource env { device := "eth1" }
  Action.perform fun (w, record) => ((), ((w.change "eth0" { events := [⟨0, ⟨400⟩⟩] }).change
    "eth1" { events := [⟨0, ⟨700⟩⟩] }, record))
  return o

/-- A cycle over two sources on the two devices. -/
def cycleOverTwo (o : Orchestrator (Numbered Nat) (Numbered Bench.Servo)) :
    Action (Bench.World × Record Bench.Failure)
      (Except (SyncError Bench.Failure) (List ClockReport) ×
        Orchestrator (Numbered Nat) (Numbered Bench.Servo)) :=
  o.runCycle (Bench.environment .prepared twoDevices).recorded
    (Bench.wait [some 0, some 1]).beside

/-- Whether the cycle would select the first clock, although it is a destination, and
    report on the second one only. -/
def reportsOther (o : Orchestrator (Numbered Nat) (Numbered Bench.Servo))
    (m : Machine (Bench.World × Record Bench.Failure)) : Bool :=
  match (o.reconfigure.outcome m).1, ((cycleOverTwo o).outcome m).1 with
  | .ok (_, o₁), .ok (.ok reports, _) =>
    o₁.sourceClock == some ⟨0⟩ && (o₁.clocks.get? ⟨0⟩).any (·.isDestination) &&
      reports.map (·.clock) == [⟨1⟩]
  | _, _ => false

/-- Whether this is so after listening to both. -/
def listensToSource : Bool :=
  match listenToSource.outcome ⟨(twoDevices, []), #[]⟩ with
  | (.ok o, m) => reportsOther o m
  | _ => false

/-- Both clocks are destinations, and the source is spared. -/
theorem source_spared_listenToSource :
    ∃ (record added : Record Bench.Failure)
      (o o₁ o' : Orchestrator (Numbered Nat) (Numbered Bench.Servo))
      (m m₁ m' : Machine (Bench.World × Record Bench.Failure)) (selection : Option Selection)
      (c : Clock (Numbered Nat) (Numbered Bench.Servo)) (reports : List ClockReport),
      Run (Bench.environment .prepared twoDevices) record o ∧ m.world.2 = record ∧
      Returns o.reconfigure m (selection, o₁) m₁ ∧ o₁.sourceClock = some ⟨0⟩ ∧
      o₁.clocks.get? ⟨0⟩ = some c ∧ c.isDestination = true ∧
      Returns (cycleOverTwo o) m (.ok reports, o') m' ∧ reports.map (·.clock) = [⟨1⟩] ∧
      m'.world.2 = record ++ added ∧
      ∀ request ∈ Record.of added c.handle.number, request = .reset := by
  have hcheck : listensToSource = true := by decide +kernel
  unfold listensToSource at hcheck
  split at hcheck
  · next o m hrun =>
    unfold reportsOther at hcheck
    split at hcheck
    · next selection o₁ reports o' hselect hcycle =>
      simp only [Bool.and_eq_true, beq_iff_eq] at hcheck
      obtain ⟨⟨hid, hflag⟩, hreports⟩ := hcheck
      obtain ⟨c, hc, hdest⟩ := (Option.any_eq_true _ _).mp hflag
      replace hrun : Returns listenToSource ⟨(twoDevices, []), #[]⟩ o m := hrun
      simp only [listenToSource, returns_bind, returns_perform, returns_pure] at hrun
      obtain ⟨⟨_, o₂⟩, _, h₂, ⟨_, o₃⟩, _, h₃, ⟨_, o₄⟩, _, h₄, ⟨_, o₅⟩, _, h₅, ⟨_, o₆⟩, _, h₆,
        _, _, ⟨-, rfl⟩, rfl, rfl⟩ := hrun
      have hstart : Run (Bench.environment .prepared twoDevices) []
          (Orchestrator.start {} .empty (.generic .zero)) := .start _ _ .empty
      have hports := (hstart.next (.addPort h₂) rfl).next (.addPort h₃) rfl
      have hadded := ((hports.next (.reconfigure h₄) rfl).next (.addSource h₅) rfl).next
        (.addSource h₆) rfl
      have hselect := returns_of_outcome hselect
      have hcycle := returns_of_outcome hcycle
      obtain ⟨own, hown, -, -, added, hrecord, hspared⟩ := source_spared hadded (by rfl) hselect
        hid (Bench.wait [some 0, some 1])
      obtain rfl : c = own := Option.some.inj (hc.symm.trans hown)
      exact ⟨_, added, o, o₁, o', _, _, _, selection, c, reports, hadded, by rfl, hselect, hid,
        hc, hdest, hcycle, hreports, hrecord, hspared⟩
    · cases hcheck
  · cases hcheck

end Orchestrator

end ClockDiscipline
