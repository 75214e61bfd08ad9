/-
  ClockDiscipline/Proofs/PendingReset.lean
  ========================================
  **When a clock behind a bus has to be reset, over a whole run.**

  A run is kept as a list of cycles, each with its record.  From the records
  alone it is said which cycles got through a pending reset (`BeyondReset`), what
  they measured after it (`Cycle.Tracked`), and so when a reset is asked for.
  `pending_of_run` holds the flag of the tracker against this, however the bus
  and the reference behave: a rate is only steered by a clock that was
  aligned before, and the flag is neither lost nor set without cause.
-/
import ClockDiscipline.Proofs.BusFault
import ClockDiscipline.Proofs.Transactions

namespace ClockDiscipline

open ClockDiscipline.Action
open ClockDiscipline.RateTracker (Exceeded Lost ResetEnds TrackEnds CycleEnds)

variable {W β γ : Type} {c : BusClock W β γ} {config : TrackingConfig} {t t' : RateTracker}
  {m m' : Machine (W × List (Transaction β γ))}

/-! ### Phases on record -/

/-- The clock was given its own speed and was set. -/
inductive Preparing : List (Transaction β γ) → Prop
  | intro (now : Instant) (ticks : UInt64) :
      Preparing [.rate .nominal (.ok ()), .reference (.ok now), .set ticks (.ok ())]

/-- A reset phase in which everything succeeded: after the set the clock was
    measured to be behind, and was advanced. -/
inductive Aligning (config : TrackingConfig) : List (Transaction β γ) → Prop
  | intro {head measuring : List (Transaction β γ)} {measured : Measurement} (lacking : UInt64)
      (prepared : Preparing head) (reading : Measured config measuring measured)
      (behind : measured.offset.nanos.toInt < 0) :
      Aligning config (head ++ measuring ++ [.add lacking (.ok ())])

/-- No reset is pending any more when the rest of a record begins. -/
def BeyondReset (config : TrackingConfig) (pending : Bool) (record rest : List (Transaction β γ)) :
    Prop :=
  if pending then ∃ phase, Aligning config phase ∧ record = phase ++ rest else record = rest

/-- The nominal rate was written first, and no rate after it. -/
def NominalOnly (record : List (Transaction β γ)) : Prop :=
  ∃ answer rest, record = .rate .nominal answer :: rest ∧ ∀ x ∈ rest, ¬x.IsRate

theorem NominalOnly.eq {record before after : List (Transaction β γ)} {rate : RateRegister}
    {answer : Except β Unit} (h : NominalOnly record)
    (hsplit : record = before ++ .rate rate answer :: after) : before = [] ∧ rate = .nominal := by
  obtain ⟨first, rest, rfl, hrest⟩ := h
  cases before with
  | nil =>
    cases hsplit
    exact ⟨rfl, rfl⟩
  | cons x before =>
    cases hsplit
    exact absurd trivial (hrest (.rate rate answer) (by simp))

theorem Preparing.length {head : List (Transaction β γ)} (h : Preparing head) :
    head.length = 3 := by
  cases h
  rfl

theorem Aligning.length {phase : List (Transaction β γ)} (h : Aligning config phase) :
    phase.length = 13 := by
  cases h with
  | intro lacking prepared reading behind => simp [prepared.length, reading.length]

theorem Aligning.succeeded {phase : List (Transaction β γ)} (h : Aligning config phase) :
    ∀ x ∈ phase, ¬x.Failed := by
  intro x hx
  cases h with
  | intro lacking prepared reading behind =>
    cases prepared
    simp only [List.mem_append, List.mem_cons, List.not_mem_nil, or_false] at hx
    rcases hx with ((rfl | rfl | rfl) | hx) | rfl
    case inl.inr => exact (reading.fine x hx).2
    all_goals simp [Transaction.Failed]

theorem NominalOnly.of_preparing {head rest : List (Transaction β γ)} (h : Preparing head)
    (hrest : ∀ x ∈ rest, ¬x.IsRate) : NominalOnly (head ++ rest) := by
  cases h with
  | intro now ticks =>
    refine ⟨.ok (), [.reference (.ok now), .set ticks (.ok ())] ++ rest, rfl, ?_⟩
    intro x hx
    simp only [List.mem_append, List.mem_cons, List.not_mem_nil, or_false] at hx
    rcases hx with (rfl | rfl) | hx
    · simp [Transaction.IsRate]
    · simp [Transaction.IsRate]
    · exact hrest x hx

theorem NominalOnly.of_measured {head measuring : List (Transaction β γ)}
    {measured : Measurement} {ticks : UInt64} {answer : Except β Unit} (h : Preparing head)
    (hmeasured : Measured config measuring measured) :
    NominalOnly (head ++ measuring ++ [.add ticks answer]) := by
  rw [List.append_assoc]
  apply NominalOnly.of_preparing h
  intro x hx
  rcases List.mem_append.mp hx with hx | hx
  · exact (hmeasured.fine x hx).1
  · rw [List.mem_singleton.mp hx]
    exact not_false

theorem Aligning.nominal {phase : List (Transaction β γ)} (h : Aligning config phase) :
    NominalOnly phase := by
  cases h with
  | intro lacking prepared reading behind => exact .of_measured prepared reading

/-- What a reset phase measured is told by its record. -/
theorem Preparing.measured_unique {head₁ head₂ measuring₁ measuring₂ rest₁ rest₂ :
      List (Transaction β γ)} {measured₁ measured₂ : Measurement}
    (hhead₁ : Preparing head₁) (hhead₂ : Preparing head₂)
    (h₁ : Measured config measuring₁ measured₁) (h₂ : Measured config measuring₂ measured₂)
    (h : head₁ ++ measuring₁ ++ rest₁ = head₂ ++ measuring₂ ++ rest₂) :
    measured₁ = measured₂ := by
  rw [List.append_assoc, List.append_assoc] at h
  obtain ⟨-, h⟩ := List.append_inj h (hhead₁.length.trans hhead₂.length.symm)
  exact h₁.unique h₂ h

/-- The record of a reset phase that failed. -/
structure Unaligned (config : TrackingConfig) (record : List (Transaction β γ)) : Prop where
  nominal : NominalOnly record
  short : record.length ≤ 13
  failed : record.length = 13 → ∃ x ∈ record, x.Failed
  rejected : ∀ {head measuring rest : List (Transaction β γ)} {measured : Measurement},
    record = head ++ measuring ++ rest → Preparing head → Measured config measuring measured →
    0 ≤ measured.offset.nanos.toInt → rest = []

/-- A record that ends with the measurement, or before it. -/
theorem Unaligned.of_short {record : List (Transaction β γ)} (hnominal : NominalOnly record)
    (hshort : record.length ≤ 12) : Unaligned config record where
  nominal := hnominal
  short := by omega
  failed hlong := by omega
  rejected hsplit hhead hreading _ := by
    have hlength := congrArg List.length hsplit
    rw [List.length_append, List.length_append, hhead.length, hreading.length] at hlength
    exact List.eq_nil_of_length_eq_zero (by omega)

theorem Unaligned.not_beyond {record rest : List (Transaction β γ)}
    (h : Unaligned config record) : ¬BeyondReset config true record rest := by
  rintro ⟨phase, haligning, rfl⟩
  have hshort := h.short
  rw [List.length_append, haligning.length] at hshort
  obtain rfl : rest = [] := List.eq_nil_of_length_eq_zero (by omega)
  rw [List.append_nil] at h
  obtain ⟨x, hx, hfailed⟩ := h.failed haligning.length
  exact haligning.succeeded x hx hfailed

theorem BeyondReset.unique {pending : Bool} {record rest₁ rest₂ : List (Transaction β γ)}
    (h₁ : BeyondReset config pending record rest₁) (h₂ : BeyondReset config pending record rest₂) :
    rest₁ = rest₂ := by
  cases pending with
  | false => exact h₁.symm.trans h₂
  | true =>
    obtain ⟨phase₁, haligning₁, rfl⟩ := h₁
    obtain ⟨phase₂, haligning₂, hsame⟩ := h₂
    exact (List.append_inj hsame (haligning₁.length.trans haligning₂.length.symm)).2

/-! ### What the phases put on record -/

/-- Setting the clock behind writes the nominal rate first, and comes to its end
    unless one of three transactions fails. -/
theorem setBehind_record {result : Except (TrackingError β γ) Unit}
    (h : Returns (RateTracker.setBehind c.recorded config) m result m') :
    ∃ added, Adds m added m' ∧ NominalOnly added ∧ added.length ≤ 3 ∧
      (result = .ok () → Preparing added) := by
  simp only [RateTracker.setBehind, returns_bind] at h
  obtain ⟨written, m₁, hwrite, h⟩ := h
  have hwrite := adds_of_recording hwrite
  cases written with
  | error e =>
    obtain ⟨rfl, rfl⟩ := returns_pure.mp h
    refine ⟨_, hwrite, ⟨_, [], rfl, by simp⟩, by simp, ?_⟩
    intro hok
    cases hok
  | ok =>
    simp only [returns_bind] at h
    obtain ⟨now, m₂, hnow, h⟩ := h
    have hnow := hwrite.trans (adds_of_recording hnow)
    cases now with
    | error e =>
      obtain ⟨rfl, rfl⟩ := returns_pure.mp h
      refine ⟨_, hnow, ⟨_, _, rfl, by simp [Transaction.IsRate]⟩, by simp, ?_⟩
      intro hok
      cases hok
    | ok now =>
      simp only [returns_bind, returns_checked, returns_pure] at h
      obtain ⟨ticks, m₂, ⟨-, rfl⟩, set, m₃, hset, rfl, rfl⟩ := h
      have hset := hnow.trans (adds_of_recording hset)
      refine ⟨_, hset, ⟨_, _, rfl, by simp [Transaction.IsRate]⟩, by simp, ?_⟩
      intro hok
      cases set with
      | error e => cases hok
      | ok => exact .intro now ticks

/-- What was put on record before a measurement. -/
theorem setBehind_adds (h : Returns (RateTracker.setBehind c.recorded config) m (.ok ()) m') :
    ∃ head, Adds m head m' ∧ Preparing head := by
  obtain ⟨head, hhead, -, -, hprepared⟩ := setBehind_record h
  exact ⟨head, hhead, hprepared rfl⟩

theorem RateTracker.ResetEnds.aligning (h : ResetEnds c.recorded t m (.ok ()) t' m') :
    ∃ phase, Adds m phase m' ∧ Aligning t.config phase := by
  cases h with
  | aligned set reading behind lacking added =>
    obtain ⟨head, hhead, hprepared⟩ := setBehind_adds set
    obtain ⟨measuring, hmeasuring, hmeasured⟩ := measure_adds reading
    have hadds := (hhead.trans hmeasuring).noted.trans (adds_of_recording added)
    exact ⟨_, hadds, .intro _ hprepared hmeasured behind⟩

theorem RateTracker.ResetEnds.unaligned {e : TrackingError β γ}
    (h : ResetEnds c.recorded t m (.error e) t' m') :
    ∃ added, Adds m added m' ∧ Unaligned t.config added := by
  cases h with
  | notSet set =>
    obtain ⟨added, hadds, hnominal, hlength, -⟩ := setBehind_record set
    exact ⟨added, hadds, .of_short hnominal (by omega)⟩
  | notMeasured set reading =>
    obtain ⟨head, hhead, hprepared⟩ := setBehind_adds set
    obtain ⟨added, hadds, hbroken⟩ := measure_breaksOff reading
    refine ⟨_, hhead.trans hadds, .of_short (.of_preparing hprepared hbroken.noRate) ?_⟩
    have hshort := hbroken.short
    rw [List.length_append, hprepared.length]
    omega
  | notBehind set reading ahead =>
    obtain ⟨head, hhead, hprepared⟩ := setBehind_adds set
    obtain ⟨measuring, hmeasuring, hmeasured⟩ := measure_adds reading
    have hnominal := NominalOnly.of_preparing hprepared fun x hx => (hmeasured.fine x hx).1
    refine ⟨_, (hhead.trans hmeasuring).noted, .of_short hnominal ?_⟩
    simp [hprepared.length, hmeasured.length]
  | @notAdvanced measured ticks text e m₀ m₁ _ set reading behind lacking added =>
    obtain ⟨head, hhead, hprepared⟩ := setBehind_adds set
    obtain ⟨measuring, hmeasuring, hmeasured⟩ := measure_adds reading
    have hadds := (hhead.trans hmeasuring).noted.trans (adds_of_recording added)
    refine ⟨_, hadds, .of_measured hprepared hmeasured, ?_, ?_, ?_⟩
    · simp [hprepared.length, hmeasured.length]
    · intro _
      exact ⟨.add ticks (.error e), by simp, e, rfl⟩
    · intro head' measuring' rest' measured' hsplit hprepared' hmeasured' hahead
      rw [hprepared.measured_unique hprepared' hmeasured hmeasured' hsplit] at behind
      exact absurd hahead (Int.not_le.mpr behind)

/-- What a tracking phase put on record, and what became of the tracker. -/
inductive TrackRecord (t : RateTracker) :
    List (Transaction β γ) → Except (TrackingError β γ) TrackingOutcome → RateTracker → Prop
  | brokenOff {record : List (Transaction β γ)} {e : TrackingError β γ}
      (broken : BrokenOff 9 record) : TrackRecord t record (.error e) t
  | measured {measuring after : List (Transaction β γ)} {measured : Measurement}
      {result : Except (TrackingError β γ) TrackingOutcome} {t' : RateTracker}
      (reading : Measured t.config measuring measured) (config : t'.config = t.config)
      (last : t'.lastOffset = some measured.offset)
      (pending : t'.resetRequested = (t.resetRequested || decide (Lost t.config measured.offset))) :
      TrackRecord t (measuring ++ after) result t'

theorem not_lost_of_small {offset : Duration} (h : ¬Exceeded config offset) :
    decide (Lost config offset) = false :=
  decide_eq_false fun hlost => h hlost.1

theorem RateTracker.TrackEnds.record {result : Except (TrackingError β γ) TrackingOutcome}
    (h : TrackEnds c.recorded t m result t' m') :
    ∃ added, Adds m added m' ∧ TrackRecord t added result t' := by
  cases h with
  | notMeasured reading =>
    obtain ⟨added, hadds, hbroken⟩ := measure_breaksOff reading
    exact ⟨added, hadds, .brokenOff hbroken⟩
  | skipped reading large =>
    obtain ⟨measuring, hadds, hmeasured⟩ := measure_adds reading
    refine ⟨measuring ++ [], ?_, .measured hmeasured rfl rfl rfl⟩
    rw [List.append_nil]
    exact hadds.noted.noted
  | notEncoded reading small =>
    obtain ⟨measuring, hadds, hmeasured⟩ := measure_adds reading
    refine ⟨measuring ++ [], ?_, .measured hmeasured rfl rfl ?_⟩
    · rw [List.append_nil]
      exact hadds.noted
    · simp [not_lost_of_small small]
  | notWritten reading small written =>
    obtain ⟨measuring, hadds, hmeasured⟩ := measure_adds reading
    have hwritten := hadds.noted.trans (adds_of_recording written)
    refine ⟨_, hwritten, .measured hmeasured rfl rfl ?_⟩
    simp [not_lost_of_small small]
  | adjusted reading small written =>
    obtain ⟨measuring, hadds, hmeasured⟩ := measure_adds reading
    have hwritten := hadds.noted.trans (adds_of_recording written)
    refine ⟨_, hwritten, .measured hmeasured rfl rfl ?_⟩
    simp [not_lost_of_small small]

/-- What the phases of a cycle put on record. -/
inductive CycleRecord (t : RateTracker) :
    List (Transaction β γ) → Except (TrackingError β γ) TrackingOutcome → RateTracker → Prop
  | unaligned {record : List (Transaction β γ)} {e : TrackingError β γ}
      (pending : t.resetRequested = true) (unaligned : Unaligned t.config record) :
      CycleRecord t record (.error e) t
  | beyond {record rest : List (Transaction β γ)} {t₀ t' : RateTracker}
      {result : Except (TrackingError β γ) TrackingOutcome}
      (track : TrackRecord t₀ rest result t')
      (beyond : BeyondReset t.config t.resetRequested record rest)
      (calm : t₀.resetRequested = false) (config : t₀.config = t.config)
      (last : t₀.lastOffset = t.lastOffset) :
      CycleRecord t record result t'

theorem RateTracker.CycleEnds.record {result : Except (TrackingError β γ) TrackingOutcome}
    (h : CycleEnds c.recorded t m result t' m') :
    ∃ added, Adds m added m' ∧ CycleRecord t added result t' := by
  cases h with
  | reset pending reset =>
    obtain ⟨added, hadds, hunaligned⟩ := reset.unaligned
    exact ⟨added, hadds, .unaligned pending hunaligned⟩
  | aligned pending reset track =>
    obtain ⟨phase, hphase, haligning⟩ := reset.aligning
    obtain ⟨rest, hrest, htrack⟩ := TrackEnds.record track
    cases reset with
    | aligned =>
      refine ⟨_, hphase.trans hrest, .beyond htrack ?_ rfl rfl rfl⟩
      rw [pending]
      exact ⟨phase, haligning, rfl⟩
  | calm pending track =>
    obtain ⟨rest, hrest, htrack⟩ := TrackEnds.record track
    refine ⟨rest, hrest, .beyond htrack ?_ pending rfl rfl⟩
    rw [pending]
    exact rfl

/-! ### Runs -/

/-- A cycle as it is seen from outside. -/
structure Cycle (β γ : Type) where
  /-- Whether a reset was pending when it began. -/
  pending : Bool
  record : List (Transaction β γ)
  result : Except (TrackingError β γ) TrackingOutcome

/-- The cycles of a tracker that has just been started.  Whatever happens to
    the world between them. -/
inductive Run (c : BusClock W β γ) (config : TrackingConfig) :
    List (Cycle β γ) → RateTracker → Prop
  | start : Run c config [] (.start config)
  | cycle {past : List (Cycle β γ)} {t t' : RateTracker}
      {m m' : Machine (W × List (Transaction β γ))}
      {result : Except (TrackingError β γ) TrackingOutcome}
      (run : Run c config past t) (fresh : m.world.2 = [])
      (sync : Returns (t.sync c.recorded) m (result, t') m') :
      Run c config (past ++ [⟨t.resetRequested, m'.world.2, result⟩]) t'

/-- The cycle came to its tracking phase and measured the clock there. -/
def Cycle.Tracked (config : TrackingConfig) (cycle : Cycle β γ) (measured : Measurement) : Prop :=
  ∃ measuring after, BeyondReset config cycle.pending cycle.record (measuring ++ after) ∧
    Measured config measuring measured

/-- The last measurement of a tracking phase. -/
inductive LastTracked (config : TrackingConfig) : List (Cycle β γ) → Measurement → Prop
  | here {past : List (Cycle β γ)} {cycle : Cycle β γ} {measured : Measurement}
      (tracked : cycle.Tracked config measured) : LastTracked config (past ++ [cycle]) measured
  | before {past : List (Cycle β γ)} {cycle : Cycle β γ} {measured : Measurement}
      (untracked : ∀ other, ¬cycle.Tracked config other)
      (last : LastTracked config past measured) : LastTracked config (past ++ [cycle]) measured

/-- What the flag of pending resets has to do with the cycles of a run.  The
    flag after the cycle is `pending`. -/
structure Orderly (config : TrackingConfig) (past : List (Cycle β γ)) (cycle : Cycle β γ)
    (pending : Bool) : Prop where
  /-- A rate other than the nominal one of a reset phase is written only when
      no reset is pending any more. -/
  rates : ∀ {before after : List (Transaction β γ)} {rate : RateRegister}
    {answer : Except β Unit}, cycle.record = before ++ .rate rate answer :: after →
    (cycle.pending = true ∧ before = [] ∧ rate = .nominal) ∨
      ∃ rest, BeyondReset config cycle.pending before rest
  cleared : cycle.pending = true → pending = false →
    ∃ phase rest, cycle.record = phase ++ rest ∧ Aligning config phase
  requested : (∃ rest, BeyondReset config cycle.pending cycle.record rest) →
    (pending = true ↔
      (∃ measured, cycle.Tracked config measured ∧ Lost config measured.offset) ∨
      (∃ e, cycle.result = .error (.bus e)) ∧
        ∃ measured, LastTracked config (past ++ [cycle]) measured ∧
          Exceeded config measured.offset)
  rejected : ∀ {head measuring rest : List (Transaction β γ)} {measured : Measurement},
    cycle.pending = true → cycle.record = head ++ measuring ++ rest → Preparing head →
    Measured config measuring measured → 0 ≤ measured.offset.nanos.toInt → rest = []

theorem lastTracked_append_iff {past : List (Cycle β γ)} {cycle : Cycle β γ}
    {measured : Measurement} :
    LastTracked config (past ++ [cycle]) measured ↔ cycle.Tracked config measured ∨
      (∀ other, ¬cycle.Tracked config other) ∧ LastTracked config past measured := by
  constructor
  · generalize hall : past ++ [cycle] = all
    intro h
    cases h with
    | here tracked =>
      obtain ⟨-, hcycle⟩ := List.append_inj' hall rfl
      cases hcycle
      exact .inl tracked
    | before untracked last =>
      obtain ⟨rfl, hcycle⟩ := List.append_inj' hall rfl
      cases hcycle
      exact .inr ⟨untracked, last⟩
  · rintro (htracked | ⟨huntracked, hlast⟩)
    · exact .here htracked
    · exact .before huntracked hlast

theorem Cycle.Tracked.unique {cycle : Cycle β γ} {measured₁ measured₂ : Measurement}
    (h₁ : cycle.Tracked config measured₁) (h₂ : cycle.Tracked config measured₂) :
    measured₁ = measured₂ := by
  obtain ⟨measuring₁, after₁, hbeyond₁, hreading₁⟩ := h₁
  obtain ⟨measuring₂, after₂, hbeyond₂, hreading₂⟩ := h₂
  exact hreading₁.unique hreading₂ (hbeyond₁.unique hbeyond₂)

/-- The tracker remembers the last offset that was tracked. -/
structure Remembered (config : TrackingConfig) (past : List (Cycle β γ)) (t : RateTracker) :
    Prop where
  sameConfig : t.config = config
  last : ∀ offset, t.lastOffset = some offset ↔
    ∃ measured, LastTracked config past measured ∧ measured.offset = offset

/-- The answer to a bus fault, seen in the flag. -/
theorem afterBusFault_requested (t : RateTracker) :
    t.afterBusFault.resetRequested = true ↔ t.resetRequested = true ∨
      ∃ offset, t.lastOffset = some offset ∧ Exceeded t.config offset := by
  unfold RateTracker.afterBusFault
  split
  · next offset hlast =>
    split
    · next hlarge => simp [hlast, RateTracker.exceeded_iff.mp hlarge]
    · next hsmall => simp [hlast, mt RateTracker.exceeded_iff.mpr hsmall]
  · next hnone => simp [hnone]

theorem afterBusFault_keeps (t : RateTracker) :
    t.afterBusFault.config = t.config ∧ t.afterBusFault.lastOffset = t.lastOffset := by
  unfold RateTracker.afterBusFault
  split
  · split <;> exact ⟨rfl, rfl⟩
  · exact ⟨rfl, rfl⟩

/-! ### One cycle -/

section Steps

variable {past : List (Cycle β γ)} {record : List (Transaction β γ)}
  {result : Except (TrackingError β γ) TrackingOutcome}

theorem CycleRecord.config_eq (h : CycleRecord t record result t') : t'.config = t.config := by
  cases h with
  | unaligned pending unaligned => rfl
  | beyond track beyond calm config last =>
    cases track with
    | brokenOff broken => exact config
    | measured reading config' last' pending => exact config'.trans config

/-- A cycle either tracked what its tracker now remembers, or tracked nothing
    and left it alone. -/
theorem CycleRecord.remembers (h : CycleRecord t record result t') :
    (∃ measured, Cycle.Tracked t.config ⟨t.resetRequested, record, result⟩ measured ∧
      t'.lastOffset = some measured.offset) ∨
    (∀ measured, ¬Cycle.Tracked t.config ⟨t.resetRequested, record, result⟩ measured) ∧
      t'.lastOffset = t.lastOffset := by
  cases h with
  | unaligned pending unaligned =>
    refine .inr ⟨?_, rfl⟩
    rintro measured ⟨measuring, after, hbeyond, -⟩
    rw [pending] at hbeyond
    exact unaligned.not_beyond hbeyond
  | beyond track beyond calm config last =>
    cases track with
    | brokenOff broken =>
      refine .inr ⟨?_, last⟩
      rintro measured ⟨measuring, after, hbeyond, hreading⟩
      rw [beyond.unique hbeyond] at broken
      exact hreading.not_brokenOff broken
    | measured reading config' last' pending =>
      rw [config] at reading
      exact .inl ⟨_, ⟨_, _, beyond, reading⟩, last'⟩

theorem CycleRecord.requested (h : CycleRecord t record result t')
    (hbeyond : ∃ rest, BeyondReset t.config t.resetRequested record rest) :
    t'.resetRequested = true ↔
      ∃ measured, Cycle.Tracked t.config ⟨t.resetRequested, record, result⟩ measured ∧
        Lost t.config measured.offset := by
  have hlast := h.remembers
  cases h with
  | unaligned pending unaligned =>
    obtain ⟨rest, hbeyond⟩ := hbeyond
    rw [pending] at hbeyond
    exact absurd hbeyond unaligned.not_beyond
  | beyond track beyond calm config last =>
    cases track with
    | brokenOff broken =>
      rw [calm]
      refine iff_of_false Bool.false_ne_true ?_
      rintro ⟨measured, ⟨measuring, after, hbeyond', hreading⟩, -⟩
      rw [beyond.unique hbeyond'] at broken
      exact hreading.not_brokenOff broken
    | @measured measuring after measured _ _ reading config' last' pending =>
      rw [config] at reading
      have htracked : Cycle.Tracked t.config ⟨t.resetRequested, record, result⟩ measured :=
        ⟨measuring, after, beyond, reading⟩
      rw [pending, calm, config, Bool.false_or, decide_eq_true_iff]
      constructor
      · intro hlost
        exact ⟨measured, htracked, hlost⟩
      · rintro ⟨other, hother, hlost⟩
        rwa [htracked.unique hother]

theorem CycleRecord.cleared (h : CycleRecord t record result t')
    (hpending : t.resetRequested = true) (hcleared : t'.resetRequested ≠ true) :
    ∃ phase rest, record = phase ++ rest ∧ Aligning t.config phase := by
  cases h with
  | unaligned pending unaligned => exact absurd hpending hcleared
  | beyond track beyond calm config last =>
    rw [hpending] at beyond
    obtain ⟨phase, haligning, hsplit⟩ := beyond
    exact ⟨phase, _, hsplit, haligning⟩

theorem CycleRecord.rates {before after : List (Transaction β γ)} {rate : RateRegister}
    {answer : Except β Unit} (h : CycleRecord t record result t')
    (hsplit : record = before ++ .rate rate answer :: after) :
    (t.resetRequested = true ∧ before = [] ∧ rate = .nominal) ∨
      ∃ rest, BeyondReset t.config t.resetRequested before rest := by
  cases h with
  | unaligned pending unaligned => exact .inl ⟨pending, unaligned.nominal.eq hsplit⟩
  | beyond track beyond calm config last =>
    cases hpending : t.resetRequested with
    | false => exact .inr ⟨before, rfl⟩
    | true =>
      rw [hpending] at beyond
      obtain ⟨phase, haligning, rfl⟩ := beyond
      -- the rate is written in the reset phase or after it
      rcases List.append_eq_append_iff.mp hsplit with ⟨rest', rfl, -⟩ | ⟨within, hphase, hrest⟩
      · exact .inr ⟨rest', phase, haligning, rfl⟩
      · cases within with
        | nil =>
          rw [List.append_nil] at hphase
          exact .inr ⟨[], before, hphase ▸ haligning, (List.append_nil _).symm⟩
        | cons x within =>
          obtain ⟨rfl, -⟩ := List.cons.inj hrest
          exact .inl ⟨rfl, haligning.nominal.eq hphase⟩

theorem CycleRecord.rejected {head measuring rest : List (Transaction β γ)}
    {measured : Measurement} (h : CycleRecord t record result t')
    (hpending : t.resetRequested = true) (hsplit : record = head ++ measuring ++ rest)
    (hhead : Preparing head) (hreading : Measured t.config measuring measured)
    (hahead : 0 ≤ measured.offset.nanos.toInt) : rest = [] := by
  cases h with
  | unaligned pending unaligned => exact unaligned.rejected hsplit hhead hreading hahead
  | beyond track beyond calm config last =>
    rw [hpending] at beyond
    obtain ⟨phase, haligning, rfl⟩ := beyond
    cases haligning with
    | intro lacking prepared reading behind =>
      rw [List.append_assoc _ [_]] at hsplit
      rw [prepared.measured_unique hhead reading hreading hsplit] at behind
      exact absurd hahead (Int.not_le.mpr behind)

/-! ### Runs -/

theorem Remembered.step (h : Remembered config past t) (hcycle : CycleRecord t record result t') :
    Remembered config (past ++ [⟨t.resetRequested, record, result⟩]) t' where
  sameConfig := hcycle.config_eq.trans h.sameConfig
  last offset := by
    have hlast := hcycle.remembers
    rw [h.sameConfig] at hlast
    simp only [lastTracked_append_iff]
    rcases hlast with ⟨measured, htracked, hlast⟩ | ⟨huntracked, hlast⟩
    · rw [hlast, Option.some.injEq]
      constructor
      · intro hoffset
        exact ⟨measured, .inl htracked, hoffset⟩
      · rintro ⟨other, hother | ⟨hnone, -⟩, hoffset⟩
        · rwa [htracked.unique hother]
        · exact absurd htracked (hnone measured)
    · rw [hlast, h.last]
      constructor
      · rintro ⟨measured, hbefore, hoffset⟩
        exact ⟨measured, .inr ⟨huntracked, hbefore⟩, hoffset⟩
      · rintro ⟨other, hother | ⟨-, hbefore⟩, hoffset⟩
        · exact absurd hother (huntracked other)
        · exact ⟨other, hbefore, hoffset⟩

theorem Remembered.afterBusFault (h : Remembered config past t) :
    Remembered config past t.afterBusFault where
  sameConfig := (afterBusFault_keeps t).1.trans h.sameConfig
  last offset := by
    rw [(afterBusFault_keeps t).2]
    exact h.last offset

/-- What is remembered tells whether a bus fault asks for a reset. -/
theorem Remembered.afterBusFault_requested (h : Remembered config past t) :
    t.afterBusFault.resetRequested = true ↔ t.resetRequested = true ∨
      ∃ measured, LastTracked config past measured ∧ Exceeded config measured.offset := by
  rw [ClockDiscipline.afterBusFault_requested, h.sameConfig]
  apply or_congr_right
  constructor
  · rintro ⟨offset, hlast, hlarge⟩
    obtain ⟨measured, htracked, rfl⟩ := (h.last offset).mp hlast
    exact ⟨measured, htracked, hlarge⟩
  · rintro ⟨measured, htracked, hlarge⟩
    exact ⟨_, (h.last _).mpr ⟨measured, htracked, rfl⟩, hlarge⟩

end Steps

/-- From an empty record, the phases of a cycle and the answer to a bus
    fault. -/
theorem cycleRecord_of_sync {result : Except (TrackingError β γ) TrackingOutcome}
    (fresh : m.world.2 = []) (h : Returns (t.sync c.recorded) m (result, t') m') :
    ∃ t₁, CycleRecord t m'.world.2 result t₁ ∧
      (((∃ e, result = .error (.bus e)) ∧ t' = t₁.afterBusFault) ∨
        (¬∃ e, result = .error (.bus e)) ∧ t' = t₁) := by
  obtain ⟨t₁, hcycle, hanswer⟩ := RateTracker.sync_ends h
  obtain ⟨added, hadds, hrecord⟩ := hcycle.record
  have hall : m'.world.2 = added := by
    rw [hadds, fresh, List.nil_append]
  rw [hall]
  exact ⟨t₁, hrecord, hanswer⟩

theorem Run.remembered {past : List (Cycle β γ)} (h : Run c config past t) :
    Remembered config past t := by
  induction h with
  | start =>
    refine ⟨rfl, fun offset => iff_of_false (fun h => by cases h) ?_⟩
    rintro ⟨measured, hlast, -⟩
    generalize hnil : ([] : List (Cycle β γ)) = past at hlast
    cases hlast <;> simp at hnil
  | cycle run fresh sync ih =>
    obtain ⟨t₁, hrecord, ⟨-, rfl⟩ | ⟨-, rfl⟩⟩ := cycleRecord_of_sync fresh sync
    · exact (ih.step hrecord).afterBusFault
    · exact ih.step hrecord

/-- Whatever the bus and the reference do, in every cycle of every run the
    flag of pending resets goes by the records. -/
theorem pending_of_run {past : List (Cycle β γ)}
    {result : Except (TrackingError β γ) TrackingOutcome} (hrun : Run c config past t)
    (fresh : m.world.2 = []) (hsync : Returns (t.sync c.recorded) m (result, t') m') :
    Orderly config past ⟨t.resetRequested, m'.world.2, result⟩ t'.resetRequested := by
  have hremembered := hrun.remembered
  obtain rfl := hremembered.sameConfig
  obtain ⟨t₁, hrecord, hanswer⟩ := cycleRecord_of_sync fresh hsync
  have hnow := hremembered.step hrecord
  have hflag : t'.resetRequested = true ↔ t₁.resetRequested = true ∨
      (∃ e, result = .error (.bus e)) ∧
        ∃ measured, LastTracked t.config (past ++ [⟨t.resetRequested, m'.world.2, result⟩])
          measured ∧ Exceeded t.config measured.offset := by
    rcases hanswer with ⟨hbus, rfl⟩ | ⟨hbus, rfl⟩
    · rw [hnow.afterBusFault_requested, and_iff_right hbus]
    · rw [iff_self_or]
      rintro ⟨hfault, -⟩
      exact absurd hfault hbus
  refine ⟨hrecord.rates, ?_, ?_, hrecord.rejected⟩
  · intro hpending hcleared
    refine hrecord.cleared hpending ?_
    intro hkept
    rw [hflag.mpr (.inl hkept)] at hcleared
    cases hcleared
  · intro hbeyond
    rw [hflag, hrecord.requested hbeyond]

/-! ### A clock that is lost and found again -/

open Bench

/-- The reference shows these times, and the counter these ticks. -/
def showing (now : List Int64) (ticks : List UInt64) :
    Machine (BusWorld × List (Transaction BusFailure ReferenceFailure)) where
  world := ({ now := now.map (some ⟨·⟩), reads := ticks.map some }, [])
  journal := #[]

/-- The clock is aligned, and five seconds behind right after. -/
def losing : Machine (BusWorld × List (Transaction BusFailure ReferenceFailure)) :=
  showing
    [5000000000,
      5000001000, 5000001100, 5000002000, 5000002200, 5000003000, 5000003200,
      5000004000, 5000004100, 5000005000, 5000005100, 5000006000, 5000006100]
    [500000131, 500000256, 500000381, 0, 125, 250]

/-- The clock is aligned, and stays close. -/
def finding : Machine (BusWorld × List (Transaction BusFailure ReferenceFailure)) :=
  showing
    [7000000000,
      7000001000, 7000001100, 7000002000, 7000002200, 7000003000, 7000003200,
      7000004000, 7000004100, 7000005000, 7000005100, 7000006000, 7000006100]
    [750000131, 750000256, 750000381, 875000507, 875000632, 875000757]

/-- The tracker that a cycle leaves. -/
def trackerAfter (t : RateTracker)
    (m : Machine (BusWorld × List (Transaction BusFailure ReferenceFailure))) :
    Option RateTracker :=
  match ((t.sync RateTracker.scriptedClock.recorded).outcome m).1 with
  | .ok (_, t') => some t'
  | .error _ => none

theorem returns_of_trackerAfter
    {m : Machine (BusWorld × List (Transaction BusFailure ReferenceFailure))}
    (h : trackerAfter t m = some t') :
    ∃ result m', Returns (t.sync RateTracker.scriptedClock.recorded) m (result, t') m' := by
  unfold trackerAfter at h
  split at h
  · next result t₁ hrun =>
    cases h
    exact ⟨result, _, returns_of_outcome hrun⟩
  · cases h

/-- The second cycle of this run finds the clock again that the first lost. -/
theorem pending_of_run_lostAndFound :
    ∃ past t m result t' m', Run RateTracker.scriptedClock {} past t ∧ m.world.2 = [] ∧
      Returns (t.sync RateTracker.scriptedClock.recorded) m (result, t') m' ∧
      past ≠ [] ∧ t.resetRequested = true ∧ t'.resetRequested = false ∧
      Orderly {} past ⟨t.resetRequested, m'.world.2, result⟩ t'.resetRequested := by
  have hcheck : ((trackerAfter (.start {}) losing).bind fun t => (trackerAfter t finding).map
      fun t' => (t.resetRequested, t'.resetRequested)) = some (true, false) := by
    decide +kernel
  obtain ⟨t, hlosing, hcheck⟩ := Option.bind_eq_some_iff.mp hcheck
  obtain ⟨t', hfinding, hflags⟩ := Option.map_eq_some_iff.mp hcheck
  obtain ⟨hpending, hcleared⟩ := Prod.mk.inj hflags
  obtain ⟨result₁, m₁, hfirst⟩ := returns_of_trackerAfter hlosing
  obtain ⟨result₂, m₂, hsecond⟩ := returns_of_trackerAfter hfinding
  have hrun := Run.cycle .start rfl hfirst
  exact ⟨_, t, finding, result₂, t', m₂, hrun, rfl, hsecond, by simp, hpending, hcleared,
    pending_of_run hrun rfl hsecond⟩

end ClockDiscipline
