/-
  ClockDiscipline/Proofs/Shutdown.lean
  ====================================
  **At the end every input is let go and every clock is released.**

  `Environment.watched` is any environment, where each request to stop an input
  and each event that is read are noted beside the world, with their answers.
  The devices may fail at any of them: a source whose channel can not be
  disabled, or whose queue can not be read to its end, is followed by the next
  one (`disarmSources_adds`).  The clocks are released afterwards, each after
  its part was taken from it, so that none of them is refused
  (`releaseClocks_all`).
-/
import ClockDiscipline.Bench.Environment
import ClockDiscipline.Proofs.FailedSource
import ClockDiscipline.Proofs.Requests
import ClockDiscipline.Proofs.SharedClocks

namespace ClockDiscipline

open ClockDiscipline.Action

variable {W H S ε : Type} {env : Environment W H S ε}

/-! ### What the inputs are asked -/

/-- What the device of a source is asked when it stops, with the answer. -/
inductive InputCall (ε : Type) where
  | disable (channel : UInt32) (answer : Except ε Unit)
  | read (answer : Except ε (Option EdgeEvent))

/-- What the devices have been asked, oldest first. -/
abbrev InputLog (H ε : Type) := List (H × InputCall ε)

def Environment.watched (env : Environment W H S ε) : Environment (W × InputLog H ε) H S ε where
  device := {
    now := fun h => (env.device.now h).beside
    frequency := fun h => (env.device.frequency h).beside
    setFrequency := fun h f => (env.device.setFrequency h f).beside
    step := fun h offset => (env.device.step h offset).beside
    maxFrequency := fun h => (env.device.maxFrequency h).beside
    pinCount := fun h => (env.device.pinCount h).beside
    setPinFunction := fun h pin channel => (env.device.setPinFunction h pin channel).beside
    enableEdges := fun h channel polarity => (env.device.enableEdges h channel polarity).beside
    disableEdges := fun h channel =>
      (env.device.disableEdges h channel).recording fun answer => (h, .disable channel answer)
    nextEvent := fun h => (env.device.nextEvent h).recording fun answer => (h, .read answer) }
  servo := {
    sample := fun s offset localNanos weight =>
      (env.servo.sample s offset localNanos weight).beside
    reset := fun s => (env.servo.reset s).beside
    frequency := env.servo.frequency }
  openClock := fun name => (env.openClock name).beside
  makeServo := fun h => (env.makeServo h).beside
  systemTime := env.systemTime.beside
  errorText := env.errorText
  patience := env.patience

/-- The queue of a device is read until there is nothing in it, or until
    reading fails. -/
inductive Drained (handle : H) : InputLog H ε → Prop where
  | empty : Drained handle [(handle, .read (.ok none))]
  | failed (e : ε) : Drained handle [(handle, .read (.error e))]
  | event {calls : InputLog H ε} (event : EdgeEvent) : Drained handle calls →
      Drained handle ((handle, .read (.ok (some event))) :: calls)

/-- A device is asked to disable the channel, and its queue is drained if it
    has done so. -/
inductive Stopped (handle : H) (channel : UInt32) : InputLog H ε → Prop where
  | refused (e : ε) : Stopped handle channel [(handle, .disable channel (.error e))]
  | drained {calls : InputLog H ε} : Drained handle calls →
      Stopped handle channel ((handle, .disable channel (.ok ())) :: calls)

/-! ### Stopping a source -/

section Watched

variable {m m' : Machine (W × InputLog H ε)} {handle : H}

theorem nextEvent_adds {answer : Except ε (Option EdgeEvent)}
    (h : Returns (env.watched.device.nextEvent handle) m answer m') :
    Adds m [(handle, .read answer)] m' := by
  obtain ⟨next, -, rfl⟩ := returns_recording_iff.mp h
  exact rfl

theorem disableEdges_adds {channel : UInt32} {answer : Except ε Unit}
    (h : Returns (env.watched.device.disableEdges handle channel) m answer m') :
    Adds m [(handle, .disable channel answer)] m' := by
  obtain ⟨next, -, rfl⟩ := returns_recording_iff.mp h
  exact rfl

theorem drainFrom_adds {name : String} {patience count : Nat} {answer : Except ε Nat}
    (h : Returns (drainFrom env.watched handle name patience count) m answer m') :
    ∃ calls, Adds m calls m' ∧ Drained handle calls := by
  induction patience generalizing count m with
  | zero => simp [drainFrom] at h
  | succ patience ih =>
    simp only [drainFrom, returns_bind] at h
    obtain ⟨next, m₁, hread, h⟩ := h
    have hnoted := nextEvent_adds hread
    rcases next with e | _ | event
    · obtain ⟨-, rfl⟩ := returns_pure.mp h
      exact ⟨_, hnoted, .failed e⟩
    · obtain ⟨-, rfl⟩ := returns_pure.mp h
      exact ⟨_, hnoted, .empty⟩
    · simp only [returns_bind, returns_log] at h
      obtain ⟨_, _, rfl, h⟩ := h
      obtain ⟨calls, hrest, hdrained⟩ := ih h
      exact ⟨_, hnoted.noted.trans hrest, .event event hdrained⟩

theorem EdgeSource.disarm_adds {s : EdgeSource} {answer : Except ε Unit}
    (h : Returns (s.disarm env.watched handle) m answer m') :
    ∃ calls, Adds m calls m' ∧ Stopped handle s.channel calls := by
  simp only [disarm, returns_bind] at h
  obtain ⟨disabled, m₁, hdisable, h⟩ := h
  have hnoted := disableEdges_adds hdisable
  cases disabled with
  | error e =>
    obtain ⟨-, rfl⟩ := returns_pure.mp h
    exact ⟨_, hnoted, .refused e⟩
  | ok =>
    simp only [returns_bind, returns_pure] at h
    obtain ⟨drained, _, hdrain, -, rfl⟩ := h
    obtain ⟨calls, hrest, hdrained⟩ := drainFrom_adds hdrain
    exact ⟨_, hnoted.trans hrest, .drained hdrained⟩

end Watched

/-! ### Devices whose queues come to an end -/

/-- In worlds of the kind `Usual`, requests to stop inputs and to read events
    are answered in some way, and there are fewer events in a queue than would
    be read from it before it is given up. -/
structure Environment.RunsDry (env : Environment W H S ε) (Usual : W → Prop)
    (queued : W → H → Nat) : Prop where
  disable : ∀ {m : Machine W} (handle : H) (channel : UInt32), Usual m.world →
    ∃ answer m', Returns (env.device.disableEdges handle channel) m answer m' ∧ Usual m'.world
  read : ∀ {m : Machine W} (handle : H), Usual m.world →
    ∃ answer m', Returns (env.device.nextEvent handle) m answer m' ∧ Usual m'.world ∧
      ∀ event, answer = .ok (some event) → queued m'.world handle < queued m.world handle
  short : ∀ {w : W} (handle : H), Usual w → queued w handle < env.patience

section Ends

variable {Usual : W → Prop} {queued : W → H → Nat} {m : Machine W} {handle : H}

theorem Environment.RunsDry.watched (h : env.RunsDry Usual queued) :
    env.watched.RunsDry (fun w => Usual w.1) (fun w => queued w.1) where
  disable {m} handle channel husual := by
    obtain ⟨answer, next, hreturns, hnext⟩ :=
      h.disable (m := ⟨m.world.1, m.journal⟩) handle channel husual
    exact ⟨answer, _, returns_recording_iff.mpr ⟨next, hreturns, rfl⟩, hnext⟩
  read {m} handle husual := by
    obtain ⟨answer, next, hreturns, hnext⟩ := h.read (m := ⟨m.world.1, m.journal⟩) handle husual
    exact ⟨answer, _, returns_recording_iff.mpr ⟨next, hreturns, rfl⟩, hnext⟩
  short handle husual := h.short handle husual

theorem drainFrom_returns (h : env.RunsDry Usual queued) (husual : Usual m.world)
    (name : String) {patience : Nat} (count : Nat) (hshort : queued m.world handle < patience) :
    ∃ answer m', Returns (drainFrom env handle name patience count) m answer m' ∧
      Usual m'.world := by
  induction patience generalizing count m with
  | zero => exact absurd hshort (Nat.not_lt_zero _)
  | succ patience ih =>
    obtain ⟨next, m₁, hread, husual₁, hless⟩ := h.read handle husual
    simp only [drainFrom, returns_bind]
    rcases next with e | _ | event
    · exact ⟨_, m₁, ⟨_, m₁, hread, returns_pure.mpr ⟨rfl, rfl⟩⟩, husual₁⟩
    · exact ⟨_, m₁, ⟨_, m₁, hread, returns_pure.mpr ⟨rfl, rfl⟩⟩, husual₁⟩
    · have hfewer : queued m₁.world handle < patience :=
        Nat.lt_of_lt_of_le (hless event rfl) (Nat.le_of_lt_succ hshort)
      obtain ⟨answer, m', hrest, husual'⟩ := ih (m := noted m₁ .debug _) husual₁ (count + 1) hfewer
      refine ⟨answer, m', ⟨_, m₁, hread, ?_⟩, husual'⟩
      exact returns_bind.mpr ⟨(), _, returns_log.mpr rfl, hrest⟩

theorem EdgeSource.disarm_returns (h : env.RunsDry Usual queued) (husual : Usual m.world)
    (s : EdgeSource) (handle : H) :
    ∃ answer m', Returns (s.disarm env handle) m answer m' ∧ Usual m'.world := by
  obtain ⟨disabled, m₁, hdisable, husual₁⟩ := h.disable handle s.channel husual
  simp only [disarm, returns_bind]
  cases disabled with
  | error e => exact ⟨_, m₁, ⟨_, m₁, hdisable, returns_pure.mpr ⟨rfl, rfl⟩⟩, husual₁⟩
  | ok =>
    obtain ⟨drained, m₂, hdrain, husual₂⟩ :=
      drainFrom_returns h husual₁ s.name 0 (h.short handle husual₁)
    have hrest : Returns (do return (← drain env handle s.name).map fun _ => ()) m₁
        (drained.map fun _ => ()) m₂ :=
      returns_bind.mpr ⟨drained, m₂, hdrain, returns_pure.mpr ⟨rfl, rfl⟩⟩
    exact ⟨_, m₂, ⟨_, m₁, hdisable, hrest⟩, husual₂⟩

end Ends

namespace Bench

theorem World.queued_modify_le {w : World} {position : Nat} {f : Device → Device}
    (hf : ∀ d, (f d).events.length ≤ d.events.length) (other : Nat) :
    (w.modify position f).queued other ≤ w.queued other := by
  simp only [World.queued, World.modify, List.getElem?_modify]
  cases w.devices[other]? with
  | none => exact Nat.le_refl _
  | some d =>
    by_cases h : position = other
    · simpa [h] using hf d
    · simp [h]

/-- A request fails and changes nothing, or the device answers it. -/
theorem request_cases {α : Type} (method : Method) (f : Device → α)
    (effect : Device → World → World) (position : Nat) (m : Machine World) :
    (∃ e, Returns (request method f effect position) m (.error e) m) ∨
    ∃ d, m.world.devices[position]? = some d ∧
      Returns (request method f effect position) m (.ok (f d))
        { m with world := effect d m.world } := by
  cases hd : m.world.devices[position]? with
  | none => exact .inl ⟨.noSuchDevice, by simp [request, hd]⟩
  | some d =>
    by_cases hfails : method ∈ d.failing
    · exact .inl ⟨.failed method, by simp [request, hd, hfails]⟩
    · exact .inr ⟨d, rfl, by simp [request, hd, hfails]⟩

/-- On a bench no event is added to a queue while others are read. -/
theorem runsDry (plan : ServoPlan) (w : World) :
    (environment plan w).RunsDry (fun v => ∀ position, v.queued position < w.patience)
      World.queued where
  disable {m} position channel husual := by
    rcases request_cases .disableEdges (fun _ => ())
      (fun d w => (w.modify position id).record (.disableEdges d.index channel)) position m with
      ⟨e, hreturns⟩ | ⟨d, -, hreturns⟩
    · exact ⟨_, m, hreturns, husual⟩
    · refine ⟨_, _, hreturns, fun other => ?_⟩
      exact Nat.lt_of_le_of_lt
        (World.queued_modify_le (fun _ => Nat.le_refl _) other) (husual other)
  read {m} position husual := by
    rcases request_cases .nextEvent (·.events.head?)
      (fun _ w => w.modify position fun d => { d with events := d.events.tail }) position m with
      ⟨e, hreturns⟩ | ⟨d, hd, hreturns⟩
    · exact ⟨_, m, hreturns, husual, fun event hread => by cases hread⟩
    · have htail : ∀ d : Device, d.events.tail.length ≤ d.events.length := by
        intro d
        simp
      refine ⟨_, _, hreturns, fun other => ?_, fun event hread => ?_⟩
      · exact Nat.lt_of_le_of_lt (World.queued_modify_le htail other) (husual other)
      · have hhead : d.events.head? = some event := Except.ok.inj hread
        obtain ⟨rest, hevents⟩ := List.head?_eq_some_iff.mp hhead
        simp [World.queued, World.modify, hd, hevents]
  short position husual := husual position

end Bench

namespace Orchestrator

variable {o : Orchestrator H S}

/-! ### Stopping all sources -/

/-- What the devices of these sources are asked, source by source. -/
def Disarmed (o : Orchestrator H S) (sources : List EdgeSource)
    (calls : List (InputLog H ε)) : Prop :=
  List.Forall₂ (fun s call => ∃ c, o.clocks.get? s.clock = some c ∧
    Stopped c.handle s.channel call) sources calls

theorem disarmSources_adds {sources : List EdgeSource}
    (hlive : ∀ s ∈ sources, ∃ c, o.clocks.get? s.clock = some c)
    {m m' : Machine (W × InputLog H ε)}
    (h : Returns (o.disarmSources env.watched sources) m () m') :
    ∃ calls, Adds m calls.flatten m' ∧ o.Disarmed sources calls := by
  induction sources generalizing m with
  | nil =>
    obtain ⟨-, rfl⟩ := returns_pure.mp h
    exact ⟨[], adds_nil _, .nil⟩
  | cons source sources ih =>
    obtain ⟨c, hc⟩ := hlive source List.mem_cons_self
    unfold disarmSources at h
    rw [hc] at h
    simp only [returns_bind] at h
    obtain ⟨answer, m₁, hdisarm, h⟩ := h
    obtain ⟨call, hadds, hstopped⟩ := EdgeSource.disarm_adds hdisarm
    -- a failure is noted, and nothing else comes of it
    have hrest : ∃ m₂, Adds m call m₂ ∧
        Returns (o.disarmSources env.watched sources) m₂ () m' := by
      cases answer with
      | error e =>
        simp only [returns_bind, returns_log] at h
        obtain ⟨_, _, rfl, hrest⟩ := h
        exact ⟨_, hadds.noted, hrest⟩
      | ok => exact ⟨m₁, hadds, h⟩
    obtain ⟨m₂, hadds₂, hrest⟩ := hrest
    obtain ⟨calls, haddsRest, hall⟩ :=
      ih (fun s hs => hlive s (List.mem_cons_of_mem _ hs)) hrest
    exact ⟨call :: calls, hadds₂.trans haddsRest, .cons ⟨c, hc, hstopped⟩ hall⟩

theorem disarmSources_returns {Usual : W → Prop} {queued : W → H → Nat}
    (h : env.RunsDry Usual queued) (sources : List EdgeSource) {m : Machine W}
    (husual : Usual m.world) : ∃ m', Returns (o.disarmSources env sources) m () m' := by
  induction sources generalizing m with
  | nil => exact ⟨m, returns_pure.mpr ⟨rfl, rfl⟩⟩
  | cons source sources ih =>
    unfold disarmSources
    split
    · exact ih husual
    · next c _ =>
      obtain ⟨answer, m₁, hdisarm, husual₁⟩ := source.disarm_returns h husual c.handle
      simp only [returns_bind]
      cases answer with
      | error e =>
        obtain ⟨m', hrest⟩ := ih (m := noted m₁ .error _) husual₁
        exact ⟨m', _, m₁, hdisarm, returns_bind.mpr ⟨(), _, returns_log.mpr rfl, hrest⟩⟩
      | ok =>
        obtain ⟨m', hrest⟩ := ih husual₁
        exact ⟨m', _, m₁, hdisarm, hrest⟩

/-! ### Releasing the clocks -/

/-- A clock that is there is released, whatever its part is, and nothing is said
    about it. -/
theorem releaseClocks_cons (env : Environment W H S ε) {clocks : Registry H S} {id : ClockId}
    (hid : id ∈ clocks.ids) (ids : List ClockId) :
    ∃ rest, releaseClocks env clocks (id :: ids) = releaseClocks env rest ids ∧
      Handling env clocks [.destroyed id] rest ∧
      rest.ids = clocks.ids.filter fun other => other ≠ id := by
  obtain ⟨c, hc⟩ := Registry.mem_ids.mp hid
  have hidle : (clocks.modify id fun c => { c with isDestination := false }).get? id =
      some { c with isDestination := false } := by
    rw [Registry.get?_modify, if_pos rfl, hc, Option.map_some]
  have hdestroy : ((clocks.modify id fun c => { c with isDestination := false }).destroy id none :
      Except (RegistryError ε) _) = .ok _ := Registry.destroy_eq_ok hidle rfl (by simp)
  refine ⟨_, ?_, .step (.step .start (.worked ?_)) (.destroyed hdestroy), ?_⟩
  · rw [releaseClocks]
    simp only [hdestroy]
  · exact clocks.identities_modify id fun _ => rfl
  · rw [Registry.ids_destroy hdestroy, Registry.ids_modify]

/-- So are all of them, one after the other. -/
theorem releaseClocks_all (env : Environment W H S ε) {clocks : Registry H S}
    {ids : List ClockId} (hlive : ∀ id ∈ ids, id ∈ clocks.ids) (hnodup : ids.Nodup) :
    ∃ r, (∀ m, Returns (releaseClocks env clocks ids) m r m) ∧
      Handling env clocks (ids.map .destroyed) r ∧
      r.ids = clocks.ids.filter fun id => id ∉ ids := by
  induction ids generalizing clocks with
  | nil => exact ⟨clocks, fun m => returns_pure.mpr ⟨rfl, rfl⟩, .start, by simp⟩
  | cons id ids ih =>
    obtain ⟨hnotin, hnodup⟩ := List.nodup_cons.mp hnodup
    obtain ⟨rest, hfirst, hhandled, hrestIds⟩ :=
      releaseClocks_cons env (hlive id List.mem_cons_self) ids
    have hrestLive : ∀ other ∈ ids, other ∈ rest.ids := by
      intro other hother
      rw [hrestIds, List.mem_filter]
      refine ⟨hlive other (List.mem_cons_of_mem _ hother), ?_⟩
      apply decide_eq_true
      rintro rfl
      exact hnotin hother
    obtain ⟨r, hreturns, hhandling, hids⟩ := ih hrestLive hnodup
    refine ⟨r, ?_, hhandled.append hhandling, ?_⟩
    · intro m
      rw [hfirst]
      exact hreturns m
    · rw [hids, hrestIds, List.filter_filter]
      apply List.filter_congr
      intro other _
      simp [Bool.and_comm]

/-- The result is an empty registry. -/
theorem releaseClocks_ids (env : Environment W H S ε) (clocks : Registry H S) :
    ∃ r, (∀ m, Returns (releaseClocks env clocks clocks.ids) m r m) ∧
      Handling env clocks (clocks.ids.map .destroyed) r ∧ r.ids = [] := by
  obtain ⟨r, hreturns, hhandling, hids⟩ :=
    releaseClocks_all env (fun _ hid => hid) clocks.nodup_ids
  refine ⟨r, hreturns, hhandling, ?_⟩
  rw [hids, List.filter_eq_nil_iff]
  simp

/-! ### Shutting down -/

/-- After any operations, each of which may have failed, on any registry, and
    whatever the devices answer:

    when everything is shut down, the device of each source, one after the
    other, is asked to disable the channel of the source, and where it has done
    so, its queue is drained.  After that each clock that there is, whatever
    part it has, is destroyed once, which adds nothing to the journal; and none
    is left.  If the queues of the devices come to an end, so does this. -/
theorem shutdown_stops_and_releases {config : SyncConfig} {clocks : Registry H S}
    {reference : Reference} (h : Leads env (start config clocks reference) o)
    (m : Machine (W × InputLog H ε)) :
    (∀ r m', Returns (o.shutdown env.watched) m r m' →
      (∃ calls, Adds m calls.flatten m' ∧ o.Disarmed o.sources calls) ∧
      Returns (o.disarmSources env.watched o.sources) m () m' ∧
      Handling env.watched o.clocks (o.clocks.ids.map .destroyed) r ∧ o.clocks.ids.Nodup ∧
      r.ids = []) ∧
    ∀ Usual queued, env.RunsDry Usual queued → Usual m.world.1 →
      ∃ r m', Returns (o.shutdown env.watched) m r m' := by
  have hheld := (held_start config clocks reference).course h
  obtain ⟨left, hreleases, hhandling, hnone⟩ := releaseClocks_ids env.watched o.clocks
  constructor
  · intro r m' hreturns
    simp only [shutdown, returns_bind] at hreturns
    obtain ⟨_, m₁, hdisarm, hrelease⟩ := hreturns
    obtain ⟨rfl, rfl⟩ := (hreleases m₁).unique hrelease
    refine ⟨?_, hdisarm, hhandling, o.clocks.nodup_ids, hnone⟩
    exact disarmSources_adds (fun s hs => (hheld.source s hs).live) hdisarm
  · intro Usual queued hdry husual
    obtain ⟨m', hdisarm⟩ := disarmSources_returns (o := o) hdry.watched o.sources husual
    exact ⟨left, m', returns_bind.mpr ⟨(), m', hdisarm, hreleases m'⟩⟩

/-! ### Devices that fail at the end -/

/-- Four devices, none of which fails. -/
def fourDevices : Bench.World where
  devices := [{ name := "eth0" }, { name := "eth1", index := 1 }, { name := "eth2", index := 2 },
    { name := "eth3", index := 3 }]

/-- The first three devices have sources, and the fourth one, whose port is a slave,
    is selected. -/
def putFourToUse : Action Bench.World (Orchestrator Nat Bench.Servo) := do
  let env := Bench.environment .prepared fourDevices
  let (_, o) ← (start {} .empty (.generic .zero)).addSource env { device := "eth0" }
  let (_, o) ← o.addSource env { device := "eth1" }
  let (_, o) ← o.addSource env { device := "eth2" }
  let (_, o) ← o.addPort env 1 "eth3" .slave
  let (_, o) ← o.reconfigure
  return o

/-- Whether there are three sources, destinations, and a source that is selected. -/
def usesFour : Except Fault (Orchestrator Nat Bench.Servo) → Bool
  | .ok o => o.sources.length == 3 && o.clocks.ids == [⟨0⟩, ⟨1⟩, ⟨2⟩, ⟨3⟩] &&
      (o.clocks.get? ⟨0⟩).any (·.isDestination) && o.sourceClock == some ⟨3⟩
  | .error _ => false

/-- The first device can not stop to latch, the second one can not be read, and
    there are two events in the queue of the third. -/
def fourAtEnd : Bench.World where
  devices := [{ name := "eth0", failing := [.disableEdges] },
    { name := "eth1", index := 1, failing := [.nextEvent] },
    { name := "eth2", index := 2, events := [⟨0, .epoch⟩, ⟨0, .epoch⟩] },
    { name := "eth3", index := 3 }]

theorem leads_putFourToUse :
    ∃ o, Leads (Bench.environment .prepared fourDevices) (start {} .empty (.generic .zero)) o ∧
      usesFour (.ok o) = true := by
  have hcheck : usesFour (putFourToUse.outcome ⟨fourDevices, #[]⟩).1 = true := by decide +kernel
  cases hrun : (putFourToUse.outcome ⟨fourDevices, #[]⟩).1 with
  | error e =>
    rw [hrun] at hcheck
    cases hcheck
  | ok o =>
    rw [hrun] at hcheck
    refine ⟨o, ?_, hcheck⟩
    have hreturns := returns_of_outcome hrun
    simp only [putFourToUse, returns_bind, returns_pure] at hreturns
    obtain ⟨⟨_, o₁⟩, _, h₁, ⟨_, o₂⟩, _, h₂, ⟨_, o₃⟩, _, h₃, ⟨_, o₄⟩, _, h₄, ⟨_, o₅⟩, _, h₅, rfl,
      -⟩ := hreturns
    have hstart : Leads (Bench.environment .prepared fourDevices)
        (start {} .empty (.generic .zero)) (start {} .empty (.generic .zero)) := .start
    exact ((((hstart.next (.addSource h₁)).next (.addSource h₂)).next (.addSource h₃)).next
      (.addPort h₄)).next (.reconfigure h₅)

/-- All clocks are released, those of sources that fail, a destination and the
    selected source among them. -/
theorem shutdown_stops_and_releases_fourAtEnd :
    ∃ o, Leads (Bench.environment .prepared fourDevices) (start {} .empty (.generic .zero)) o ∧
      (o.clocks.get? ⟨0⟩).any (·.isDestination) ∧ o.sourceClock = some ⟨3⟩ ∧
      ∃ r m' calls,
        Returns (o.shutdown (Bench.environment .prepared fourDevices).watched)
          ⟨(fourAtEnd, []), #[]⟩ r m' ∧
        m'.world.2 = calls.flatten ∧ o.Disarmed o.sources calls ∧ calls.length = 3 ∧
        Handling (Bench.environment .prepared fourDevices).watched o.clocks
          [.destroyed ⟨0⟩, .destroyed ⟨1⟩, .destroyed ⟨2⟩, .destroyed ⟨3⟩] r ∧ r.ids = [] := by
  obtain ⟨o, hleads, hcheck⟩ := leads_putFourToUse
  simp only [usesFour, Bool.and_eq_true, beq_iff_eq] at hcheck
  obtain ⟨⟨⟨hthree, hids⟩, hdestination⟩, hselected⟩ := hcheck
  obtain ⟨hall, hends⟩ := shutdown_stops_and_releases hleads ⟨(fourAtEnd, []), #[]⟩
  have hshort : ∀ position, fourAtEnd.queued position < fourDevices.patience := by
    intro position
    match position with
    | 0 | 1 | 2 | 3 => decide
    | n + 4 => exact Nat.succ_pos _
  obtain ⟨r, m', hreturns⟩ := hends _ _ (Bench.runsDry .prepared fourDevices) hshort
  obtain ⟨⟨calls, hadds, hdisarmed⟩, -, hhandling, -, hnone⟩ := hall r m' hreturns
  rw [hids] at hhandling
  refine ⟨o, hleads, hdestination, hselected, r, m', calls, hreturns, hadds, hdisarmed, ?_,
    hhandling, hnone⟩
  rw [← hdisarmed.length_eq, hthree]

end Orchestrator

end ClockDiscipline
