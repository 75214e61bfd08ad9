/-
  ClockDiscipline/Proofs/Transactions.lean
  ========================================
  **What a cycle of a clock behind a bus puts on record.**

  `BusClock.recorded` is any bus and any reference, kept on record: each of
  their answers is added to a list beside the world.  A statement about a
  record is thus one about every bus and every reference, and about all that
  was sent to the clock and asked of the reference, in its order.
-/
import ClockDiscipline.Proofs.Measuring
import ClockDiscipline.Proofs.Phases

namespace ClockDiscipline

open ClockDiscipline.Action

variable {W α β γ R : Type}

/-! ### The record -/

/-- A transaction on the bus or a reading of the reference, with its
    answer. -/
inductive Transaction (β γ : Type) where
  | rate (written : RateRegister) (answer : Except β Unit)
  | counter (answer : Except β UInt64)
  | set (ticks : UInt64) (answer : Except β Unit)
  | add (ticks : UInt64) (answer : Except β Unit)
  | reference (answer : Except γ Instant)

namespace Transaction

/-- Whether the answer was an error. -/
def Failed : Transaction β γ → Prop
  | .rate _ answer | .set _ answer | .add _ answer => ∃ e, answer = .error e
  | .counter answer => ∃ e, answer = .error e
  | .reference answer => ∃ e, answer = .error e

/-- Whether a rate was written, or should have been. -/
def IsRate : Transaction β γ → Prop
  | .rate .. => True
  | .counter _ | .set .. | .add .. | .reference _ => False

end Transaction

/-- A step in a world beside which a record is kept. -/
def Action.recording (a : Action W α) (note : α → R) : Action (W × List R) α :=
  ExceptT.mk fun m =>
    match a.outcome ⟨m.world.1, m.journal⟩ with
    | (.ok x, next) => (.ok x, ⟨(next.world, m.world.2 ++ [note x]), next.journal⟩)
    | (.error e, next) => (.error e, ⟨(next.world, m.world.2), next.journal⟩)

def BusClock.recorded (c : BusClock W β γ) : BusClock (W × List (Transaction β γ)) β γ where
  bus := {
    writeRate := fun rate => (c.bus.writeRate rate).recording (.rate rate)
    readCounter := c.bus.readCounter.recording .counter
    setTime := fun ticks => (c.bus.setTime ticks).recording (.set ticks)
    addTime := fun ticks => (c.bus.addTime ticks).recording (.add ticks) }
  reference := c.reference.recording .reference

/-- What was put on record between two machines. -/
def Adds (m : Machine (W × List R)) (added : List R) (m' : Machine (W × List R)) : Prop :=
  m'.world.2 = m.world.2 ++ added

theorem adds_nil (m : Machine (W × List R)) : Adds m [] m := (List.append_nil _).symm

theorem Adds.noted {m m' : Machine (W × List R)} {added : List R} {severity : Severity}
    {text : String} (h : Adds m added m') : Adds m added (noted m' severity text) := h

theorem Adds.trans {m m₁ m' : Machine (W × List R)} {first second : List R}
    (h₁ : Adds m first m₁) (h₂ : Adds m₁ second m') : Adds m (first ++ second) m' := by
  unfold Adds at *
  rw [h₂, h₁, List.append_assoc]

theorem outcome_recording (a : Action W α) (note : α → R) (m : Machine (W × List R)) :
    (a.recording note).outcome m =
      match a.outcome ⟨m.world.1, m.journal⟩ with
      | (.ok x, next) => (.ok x, ⟨(next.world, m.world.2 ++ [note x]), next.journal⟩)
      | (.error e, next) => (.error e, ⟨(next.world, m.world.2), next.journal⟩) := rfl

/-- A step on record is the step itself, with its answer noted beside the
    world. -/
theorem returns_recording_iff {a : Action W α} {note : α → R} {m m' : Machine (W × List R)}
    {x : α} :
    Returns (a.recording note) m x m' ↔ ∃ next, Returns a ⟨m.world.1, m.journal⟩ x next ∧
      m' = ⟨(next.world, m.world.2 ++ [note x]), next.journal⟩ := by
  unfold Returns
  rw [outcome_recording]
  rcases a.outcome ⟨m.world.1, m.journal⟩ with ⟨e | y, next⟩
  · simp
  · simp only [Prod.mk.injEq, Except.ok.injEq]
    constructor
    · rintro ⟨rfl, rfl⟩
      exact ⟨next, ⟨rfl, rfl⟩, rfl⟩
    · rintro ⟨_, ⟨rfl, rfl⟩, rfl⟩
      exact ⟨rfl, rfl⟩

theorem adds_of_recording {a : Action W α} {note : α → R} {m m' : Machine (W × List R)} {x : α}
    (h : Returns (a.recording note) m x m') : Adds m [note x] m' := by
  obtain ⟨next, -, rfl⟩ := returns_recording_iff.mp h
  rfl

/-! ### Measuring on record -/

variable {c : BusClock W β γ} {config : TrackingConfig} {t t' : RateTracker}
  {m m' : Machine (W × List (Transaction β γ))}

def Reading.transactions (r : Reading) : List (Transaction β γ) :=
  [.reference (.ok r.before), .counter (.ok r.ticks), .reference (.ok r.after)]

/-- The record of three readings, and what they amount to. -/
def Measured (config : TrackingConfig) (record : List (Transaction β γ))
    (measured : Measurement) : Prop :=
  ∃ readings : List Reading, readings.length = 3 ∧
    record = readings.flatMap Reading.transactions ∧ evaluate config.tick readings = .ok measured

/-- The record of something that ended with a failure within `n` transactions
    and wrote no rate. -/
structure BrokenOff (n : Nat) (record : List (Transaction β γ)) : Prop where
  short : record.length ≤ n
  failed : ∃ x ∈ record, x.Failed
  noRate : ∀ x ∈ record, ¬x.IsRate

theorem readBetween_adds {r : Reading}
    (h : Returns c.recorded.readBetween m (.ok (r.before, r.ticks, r.after)) m') :
    Adds m r.transactions m' := by
  obtain ⟨m₁, m₂, hbefore, hticks, hafter⟩ := readBetween_ok h
  exact ((adds_of_recording hbefore).trans (adds_of_recording hticks)).trans
    (adds_of_recording hafter)

theorem readBetween_breaksOff {e : TrackingError β γ}
    (h : Returns c.recorded.readBetween m (.error e) m') :
    ∃ added, Adds m added m' ∧ BrokenOff 3 added := by
  simp only [BusClock.readBetween, returns_bind] at h
  obtain ⟨before, m₁, hbefore, h⟩ := h
  have hbefore := adds_of_recording hbefore
  cases before with
  | error e₁ =>
    obtain ⟨-, rfl⟩ := returns_pure.mp h
    exact ⟨_, hbefore, by simp, ⟨.reference (.error e₁), by simp, e₁, rfl⟩,
      by simp [Transaction.IsRate]⟩
  | ok before =>
    simp only [returns_bind] at h
    obtain ⟨ticks, m₂, hticks, h⟩ := h
    have hticks := hbefore.trans (adds_of_recording hticks)
    cases ticks with
    | error e₁ =>
      obtain ⟨-, rfl⟩ := returns_pure.mp h
      exact ⟨_, hticks, by simp, ⟨.counter (.error e₁), by simp, e₁, rfl⟩,
        by simp [Transaction.IsRate]⟩
    | ok ticks =>
      simp only [returns_bind] at h
      obtain ⟨after, m₃, hafter, h⟩ := h
      have hafter := hticks.trans (adds_of_recording hafter)
      cases after with
      | error e₁ =>
        obtain ⟨-, rfl⟩ := returns_pure.mp h
        exact ⟨_, hafter, by simp, ⟨.reference (.error e₁), by simp, e₁, rfl⟩,
          by simp [Transaction.IsRate]⟩
      | ok after => simp at h

theorem Readings.adds {readings : List Reading} (h : Readings c.recorded m readings m') :
    Adds m (readings.flatMap Reading.transactions) m' := by
  induction h with
  | done => exact adds_nil _
  | more first rest ih => exact (readBetween_adds first).trans ih

theorem length_transactions (readings : List Reading) :
    (readings.flatMap Reading.transactions : List (Transaction β γ)).length =
      3 * readings.length := by
  induction readings with
  | nil => rfl
  | cons r readings ih =>
    rw [List.flatMap_cons, List.length_append, ih, List.length_cons]
    show 3 + _ = _
    omega

theorem transactions_fine (readings : List Reading) (x : Transaction β γ)
    (hx : x ∈ readings.flatMap Reading.transactions) : ¬x.IsRate ∧ ¬x.Failed := by
  obtain ⟨r, -, hx⟩ := List.mem_flatMap.mp hx
  simp only [Reading.transactions, List.mem_cons, List.not_mem_nil, or_false] at hx
  rcases hx with rfl | rfl | rfl <;> simp [Transaction.IsRate, Transaction.Failed]

theorem measure_adds {measured : Measurement}
    (h : Returns (measure c.recorded config) m (.ok measured) m') :
    ∃ measuring, Adds m measuring m' ∧ Measured config measuring measured := by
  rcases measure_cases h with ⟨readings, measured', hread, hthree, heval, hsame⟩ |
    ⟨readings, m₁, e, -, -, -, hfail⟩
  · cases hsame
    exact ⟨_, hread.adds, readings, hthree, rfl, heval⟩
  · cases hfail

theorem measure_breaksOff {e : TrackingError β γ}
    (h : Returns (measure c.recorded config) m (.error e) m') :
    ∃ added, Adds m added m' ∧ BrokenOff 9 added := by
  rcases measure_cases h with ⟨readings, measured, -, -, -, hfail⟩ |
    ⟨readings, m₁, e', hread, hfew, hbreak, -⟩
  · cases hfail
  · obtain ⟨added, hadds, hbroken⟩ := readBetween_breaksOff hbreak
    obtain ⟨x, hx, hfailed⟩ := hbroken.failed
    have hshort := hbroken.short
    refine ⟨_, hread.adds.trans hadds, ?_, ⟨x, List.mem_append_right _ hx, hfailed⟩, ?_⟩
    · rw [List.length_append, length_transactions]
      omega
    · intro y hy
      rcases List.mem_append.mp hy with hy | hy
      · exact (transactions_fine readings y hy).1
      · exact hbroken.noRate y hy

theorem Measured.length {measuring : List (Transaction β γ)} {measured : Measurement}
    (h : Measured config measuring measured) : measuring.length = 9 := by
  obtain ⟨readings, hthree, rfl, -⟩ := h
  rw [length_transactions, hthree]

theorem Measured.fine {measuring : List (Transaction β γ)} {measured : Measurement}
    (h : Measured config measuring measured) : ∀ x ∈ measuring, ¬x.IsRate ∧ ¬x.Failed := by
  obtain ⟨readings, -, rfl, -⟩ := h
  exact transactions_fine readings

theorem flatMap_transactions_inj {readings₁ readings₂ : List Reading}
    (h : (readings₁.flatMap Reading.transactions : List (Transaction β γ)) =
      readings₂.flatMap Reading.transactions) : readings₁ = readings₂ := by
  induction readings₁ generalizing readings₂ with
  | nil =>
    cases readings₂ with
    | nil => rfl
    | cons s readings₂ => cases h
  | cons r readings₁ ih =>
    cases readings₂ with
    | nil => cases h
    | cons s readings₂ =>
      simp only [List.flatMap_cons, Reading.transactions, List.cons_append, List.nil_append,
        List.cons.injEq, Transaction.reference.injEq, Transaction.counter.injEq,
        Except.ok.injEq] at h
      obtain ⟨hbefore, hticks, hafter, hrest⟩ := h
      rw [ih hrest]
      cases r
      cases s
      simp_all

/-- A record that begins with a measurement begins with only one. -/
theorem Measured.unique {measuring₁ measuring₂ rest₁ rest₂ : List (Transaction β γ)}
    {measured₁ measured₂ : Measurement} (h₁ : Measured config measuring₁ measured₁)
    (h₂ : Measured config measuring₂ measured₂)
    (h : measuring₁ ++ rest₁ = measuring₂ ++ rest₂) : measured₁ = measured₂ := by
  obtain ⟨rfl, -⟩ := List.append_inj h (h₁.length.trans h₂.length.symm)
  obtain ⟨readings₁, -, hrecord₁, heval₁⟩ := h₁
  obtain ⟨readings₂, -, hrecord₂, heval₂⟩ := h₂
  obtain rfl := flatMap_transactions_inj (hrecord₁.symm.trans hrecord₂)
  exact Except.ok.inj (heval₁.symm.trans heval₂)

/-- Reading that broke off did not come to a measurement. -/
theorem Measured.not_brokenOff {measuring rest : List (Transaction β γ)} {measured : Measurement}
    (h : Measured config measuring measured) : ¬BrokenOff 9 (measuring ++ rest) := by
  intro hbroken
  have hshort := hbroken.short
  rw [List.length_append, h.length] at hshort
  obtain rfl : rest = [] := List.eq_nil_of_length_eq_zero (by omega)
  obtain ⟨x, hx, hfailed⟩ := hbroken.failed
  rw [List.append_nil] at hx
  exact (h.fine x hx).2 hfailed

end ClockDiscipline
