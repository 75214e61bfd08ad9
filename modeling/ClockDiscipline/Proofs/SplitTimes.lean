/-
  ClockDiscipline/Proofs/SplitTimes.lean
  ======================================
  **Times in seconds and nanoseconds, and how they are joined again.**

  A kernel shows a time, and hands out that of an event, as whole seconds rounded
  towards the past and the nanoseconds after them (`SplitAs`).  Every word has one
  such form and no other.  Joining scales the seconds before it adds: the range of
  times begins in the middle of a second, so the start of that second is no word
  though its end is full of them.  These times, and no others, can be split but not
  joined (`join_split_iff`).
-/
import ClockDiscipline.Bench.Kernel
import ClockDiscipline.Proofs.Action
import ClockDiscipline.Proofs.EdgeRounding

namespace ClockDiscipline

open ClockDiscipline.Action

/-! ### Seconds and nanoseconds -/

/-- So many whole seconds, and less than a second of nanoseconds after them, make
    this total. -/
structure SplitAs (total : Int) (secs : Int64) (nanos : UInt32) : Prop where
  below : nanos.toNat < 1000000000
  sum : secs.toInt * nanosPerSecond + nanos.toNat = total

/-- There is only one way to split a total: the seconds are its quotient, rounded
    towards the past, and the nanoseconds what remains. -/
theorem SplitAs.unique {total : Int} {secs secs' : Int64} {nanos nanos' : UInt32}
    (h : SplitAs total secs nanos) (h' : SplitAs total secs' nanos') :
    secs = secs' ∧ nanos = nanos' := by
  have hbelow := h.below
  have hbelow' := h'.below
  have hsum := h.sum
  have hsum' := h'.sum
  unfold nanosPerSecond at hsum hsum'
  have hsecs : secs.toInt = secs'.toInt := by omega
  have hnanos : nanos.toNat = nanos'.toNat := by omega
  exact ⟨Int64.toInt_inj.mp hsecs, UInt32.toNat_inj.mp hnanos⟩

/-- Both parts of a word are in the range of their own words. -/
theorem splitAs_word (n : Int64) : SplitAs n.toInt (Int64.ofInt (n.toInt / nanosPerSecond))
    (UInt32.ofNat (n.toInt % nanosPerSecond).toNat) := by
  have hlo := n.le_toInt
  have hhi := n.toInt_lt
  have hsecs : (Int64.ofInt (n.toInt / nanosPerSecond)).toInt = n.toInt / nanosPerSecond := by
    apply Int64.toInt_ofInt_of_le
    · unfold nanosPerSecond
      omega
    · unfold nanosPerSecond
      omega
  have hnanos : (UInt32.ofNat (n.toInt % nanosPerSecond).toNat).toNat =
      (n.toInt % nanosPerSecond).toNat := by
    apply UInt32.toNat_ofNat_of_lt'
    unfold nanosPerSecond UInt32.size
    omega
  constructor
  · rw [hnanos]
    unfold nanosPerSecond
    omega
  · rw [hsecs, hnanos]
    unfold nanosPerSecond
    omega

/-! ### Joining -/

namespace Instant

/-- The whole seconds as a word. -/
def secsWord (t : Instant) : Int64 := Int64.ofInt t.secs

/-- The nanoseconds of the present second as a word. -/
def subsecWord (t : Instant) : UInt32 := UInt32.ofNat t.subsec

theorem splitAs (t : Instant) : SplitAs t.nanos.toInt t.secsWord t.subsecWord :=
  splitAs_word t.nanos

/-- The time lies in the second that the range of times begins in; of its nanoseconds only the
    last 854775808 are in range. -/
def InFirstSecond (t : Instant) : Prop := t.nanos.toInt < -9223372036 * nanosPerSecond

instance (t : Instant) : Decidable t.InFirstSecond := inferInstanceAs (Decidable (_ < _))

/-- Joining succeeds exactly if the seconds fit on their own and the sum does. -/
theorem ofSecsNanos_eq_ok_iff {t : Instant} {secs : Int64} {nanos : UInt32} :
    ofSecsNanos secs nanos = .ok t ↔
      IsWord (secs.toInt * nanosPerSecond) ∧
        t.nanos.toInt = secs.toInt * nanosPerSecond + nanos.toNat := by
  unfold ofSecsNanos
  simp only [Checked.bind_eq_ok_iff, Checked.word_eq_ok_iff, exactly_eq_ok_iff]
  constructor
  · rintro ⟨whole, hwhole, hsum⟩
    rw [← hwhole]
    exact ⟨isWord_toInt whole, hsum⟩
  · rintro ⟨hword, hsum⟩
    obtain ⟨whole, -, hwhole⟩ := Checked.exists_word hword.1 hword.2
    exact ⟨whole, hwhole, by rw [hwhole, hsum]⟩

theorem ofSecsNanos_overflows {secs : Int64} {nanos : UInt32} {e : Fault}
    (h : ofSecsNanos secs nanos = .error e) : e = .overflow := by
  rcases Checked.bind_eq_error_iff.mp h with h | ⟨whole, -, h⟩
  · exact Checked.eq_overflow h
  · exact Checked.eq_overflow (Checked.map_eq_error_iff.mp h)

end Instant

namespace SplitAs

variable {t : Instant} {secs : Int64} {nanos : UInt32}

/-- The start of a second with a time in it is no time itself exactly if the range
    begins within that second. -/
theorem isWord_start_iff (h : SplitAs t.nanos.toInt secs nanos) :
    IsWord (secs.toInt * nanosPerSecond) ↔ ¬t.InFirstSecond := by
  have hlo := t.nanos.le_toInt
  have hhi := t.nanos.toInt_lt
  have hbelow := h.below
  have hsum := h.sum
  unfold IsWord Instant.InFirstSecond nanosPerSecond at *
  omega

theorem join (h : SplitAs t.nanos.toInt secs nanos) : Instant.ofSecsNanos secs nanos =
    if t.InFirstSecond then .error .overflow else .ok t := by
  split
  · next hfirst =>
    cases hjoin : Instant.ofSecsNanos secs nanos with
    | ok u => exact absurd hfirst (h.isWord_start_iff.mp (Instant.ofSecsNanos_eq_ok_iff.mp hjoin).1)
    | error e => rw [Instant.ofSecsNanos_overflows hjoin]
  · next hfirst =>
    exact Instant.ofSecsNanos_eq_ok_iff.mpr ⟨h.isWord_start_iff.mpr hfirst, h.sum.symm⟩

end SplitAs

/-! ### Times of the kernel -/

namespace Phc

variable {W F : Type} {kernel : Interface W F} {file : F} {m m₁ : Machine W} {secs : Int64}
  {nanos : UInt32}

/-- What a clock shows is joined. -/
theorem now_outcome (hshown : Returns (kernel.readTime file) m (.ok (secs, nanos)) m₁) :
    (now kernel file).outcome m = (.ok <$> Instant.ofSecsNanos secs nanos, m₁) := by
  unfold now steered
  simp only [hshown.outcome_bind, pure_bind, outcome_bind, outcome_checked]
  cases Instant.ofSecsNanos secs nanos with
  | ok t => rfl
  | error e => rfl

/-- The time of an event is joined. -/
theorem readEvent_outcome {channel flags : UInt32}
    (hbytes : Returns (kernel.readBytes file EventRecord.size) m
      (.ok (EventRecord.bytes ⟨secs, nanos, channel, flags⟩)) m₁) :
    (readEvent kernel file).outcome m =
      ((fun t => .ok ⟨channel, t⟩) <$> Instant.ofSecsNanos secs nanos, m₁) := by
  unfold readEvent
  simp only [hbytes.outcome_bind, EventRecord.length_bytes, Nat.lt_irrefl, if_false,
    EventRecord.ofBytes_bytes, EventRecord.event, outcome_bind, outcome_checked]
  cases Instant.ofSecsNanos secs nanos with
  | ok t => rfl
  | error e => rfl

end Phc

/-! ### Any time -/

/-- Every time has one form in whole seconds and nanoseconds.  Joining that form gives
    the time again, and so does reading a clock that shows it and reading an event
    that comes with it, exactly if the time does not lie in the second that the
    range of times begins in; if it does, each of them overflows. -/
theorem join_split_iff {W F : Type} (kernel : Phc.Interface W F) (file : F) (t : Instant) :
    SplitAs t.nanos.toInt t.secsWord t.subsecWord ∧
    ∀ secs nanos, SplitAs t.nanos.toInt secs nanos →
      secs = t.secsWord ∧ nanos = t.subsecWord ∧
      Instant.ofSecsNanos secs nanos =
        (if t.InFirstSecond then .error .overflow else .ok t) ∧
      (∀ m m₁, Returns (kernel.readTime file) m (.ok (secs, nanos)) m₁ →
        (Phc.now kernel file).outcome m =
          (if t.InFirstSecond then .error .overflow else .ok (.ok t), m₁)) ∧
      ∀ channel flags m m₁, Returns (kernel.readBytes file Phc.EventRecord.size) m
          (.ok (Phc.EventRecord.bytes ⟨secs, nanos, channel, flags⟩)) m₁ →
        (Phc.readEvent kernel file).outcome m =
          (if t.InFirstSecond then .error .overflow else .ok (.ok ⟨channel, t⟩), m₁) := by
  refine ⟨t.splitAs, fun secs nanos h => ?_⟩
  obtain ⟨hsecs, hnanos⟩ := h.unique t.splitAs
  refine ⟨hsecs, hnanos, h.join, ?_, ?_⟩
  · intro m m₁ hshown
    rw [Phc.now_outcome hshown, h.join]
    split
    · rfl
    · rfl
  · intro channel flags m m₁ hbytes
    rw [Phc.readEvent_outcome hbytes, h.join]
    split
    · rfl
    · rfl

/-- A computer whose only clock shows the first of all times. -/
def farBack : Bench.Computer where
  files := [{ name := "/dev/ptp0", time := -0x8000000000000000 }]

/-- The first time of all can not be read, and the one on the next full second can. -/
theorem join_split_iff_firstTimes :
    SplitAs (-0x8000000000000000) (-9223372037) 145224192 ∧
    Instant.ofSecsNanos (-9223372037) 145224192 = .error .overflow ∧
    Returns (Bench.clockKernel.readTime 0) ⟨farBack, #[]⟩ (.ok (-9223372037, 145224192))
      ⟨farBack, #[]⟩ ∧
    (Phc.now Bench.clockKernel 0).outcome ⟨farBack, #[]⟩ = (.error .overflow, ⟨farBack, #[]⟩) ∧
    SplitAs (-9223372036000000000) (-9223372036) 0 ∧
    Instant.ofSecsNanos (-9223372036) 0 = .ok ⟨-9223372036000000000⟩ := by
  have hfirst : SplitAs (-0x8000000000000000) (-9223372037) 145224192 := ⟨by decide, by decide⟩
  have hnext : SplitAs (-9223372036000000000) (-9223372036) 0 := ⟨by decide, by decide⟩
  have hshown : Returns (Bench.clockKernel.readTime 0) ⟨farBack, #[]⟩
      (.ok (-9223372037, 145224192)) ⟨farBack, #[]⟩ := by rfl
  obtain ⟨-, -, hjoin, hnow, -⟩ :=
    (join_split_iff Bench.clockKernel 0 ⟨-0x8000000000000000⟩).2 _ _ hfirst
  obtain ⟨-, -, hjoin', -⟩ :=
    (join_split_iff Bench.clockKernel 0 ⟨-9223372036000000000⟩).2 _ _ hnext
  exact ⟨hfirst, hjoin, hshown, hnow _ _ hshown, hnext, hjoin'⟩

/-- Neither can every time be split and joined again, nor can all seconds and
    nanoseconds be joined that make a time. -/
theorem not_forall_join_split :
    (¬∀ t : Instant, Instant.ofSecsNanos t.secsWord t.subsecWord = .ok t) ∧
    ¬∀ (t : Instant) (secs : Int64) (nanos : UInt32), SplitAs t.nanos.toInt secs nanos →
      ∃ joined, Instant.ofSecsNanos secs nanos = .ok joined := by
  have hover : Instant.ofSecsNanos (-9223372037) 145224192 = .error .overflow := by rfl
  constructor
  · intro hall
    have hfirst : Instant.ofSecsNanos (-9223372037) 145224192 = .ok ⟨-0x8000000000000000⟩ :=
      hall ⟨-0x8000000000000000⟩
    rw [hover] at hfirst
    cases hfirst
  · intro hall
    obtain ⟨joined, hjoined⟩ :=
      hall ⟨-0x8000000000000000⟩ (-9223372037) 145224192 ⟨by decide, by decide⟩
    rw [hover] at hjoined
    cases hjoined

end ClockDiscipline
