/-
  ClockDiscipline/Proofs/Contemporary.lean
  ========================================
  **Times of this century and moderate offsets stay within 64 bits.**

  The clocks and the system show times between the years 1970 and 2100.  To
  these come the offsets of the settings: from UTC, of the inputs and of the
  phase.  None of the sums leaves its range if no offset is longer than
  `Duration.farthest`, which is more than 79 years.  `Action.Fits` says that a
  step does not overflow and has a result of some kind; it is shown of a
  composed step from its parts.
-/
import ClockDiscipline.Proofs.Steady
import ClockDiscipline.Proofs.Registry

namespace ClockDiscipline

open ClockDiscipline.Action

variable {W H S ε α β : Type}

/-! ### Steps that do not overflow -/

/-- A result of this kind, or a fault that is no overflow. -/
def Checked.Fits (P : α → Prop) : Checked α → Prop
  | .ok a => P a
  | .error e => e ≠ .overflow

namespace Checked

variable {P : α → Prop} {Q : β → Prop}

theorem fits_word {x : Int} {P : Int64 → Prop} (lo : -0x8000000000000000 ≤ x)
    (hi : x < 0x8000000000000000) (h : ∀ w, w.toInt = x → P w) : Fits P (word x) := by
  obtain ⟨w, hword, hw⟩ := exists_word lo hi
  rw [hword]
  exact h w hw

theorem fits_map {f : α → β} {x : Checked α} (h : Fits (fun a => Q (f a)) x) :
    Fits Q (f <$> x) := by
  cases x with
  | ok a => exact h
  | error e => exact h

theorem fits_bind {x : Checked α} {f : α → Checked β} (hx : Fits P x)
    (hf : ∀ a, P a → Fits Q (f a)) : Fits Q (x >>= f) := by
  cases x with
  | ok a => exact hf a hx
  | error e => exact hx

end Checked

/-- However the machine stands, the step does not overflow, and if it ends with a
    result, then with one of this kind. -/
def Action.Fits (P : α → Prop) (a : Action W α) : Prop := ∀ m, Checked.Fits P (a.outcome m).1

/-- An answer, if it is not an error, is of this kind. -/
def Answers (P : α → Prop) (answer : Except ε α) : Prop := ∀ a, answer = .ok a → P a

theorem answers_error {P : α → Prop} {e : ε} : Answers P (.error e : Except ε α) := by
  intro a h
  cases h

theorem answers_ok {P : α → Prop} {a : α} (h : P a) : Answers P (.ok a : Except ε α) := by
  rintro _ ⟨⟩
  exact h

namespace Action

variable {P Q : α → Prop} {R : β → Prop} {a : Action W α} {f : α → Action W β}

theorem fits_pure {x : α} (h : P x) : Fits P (pure x : Action W α) := fun _ => h

theorem fits_log (severity : Severity) (text : String) :
    Fits (fun _ => True) (Action.log severity text : Action W Unit) := fun _ => trivial

theorem fits_checked {x : Checked α} (h : x.Fits P) : Fits P (checked x : Action W α) := by
  intro m
  rw [outcome_checked]
  exact h

theorem fits_bind (ha : Fits P a) (hf : ∀ x, P x → Fits R (f x)) : Fits R (a >>= f) := by
  intro m
  have hfirst := ha m
  rw [outcome_bind]
  cases hrun : a.outcome m with
  | mk result m₁ =>
    rw [hrun] at hfirst
    cases result with
    | ok x => exact hf x hfirst m₁
    | error e => exact hfirst

theorem Fits.mono (h : Fits P a) (hPQ : ∀ x, P x → Q x) : Fits Q a := by
  intro m
  have hend := h m
  cases hrun : (a.outcome m).1 with
  | ok x =>
    rw [hrun] at hend
    exact hPQ x hend
  | error e =>
    rw [hrun] at hend
    exact hend

/-- What was written to the journal does not matter. -/
theorem fits_log_bind {severity : Severity} {text : String} {g : Unit → Action W β}
    (h : Fits R (g ())) : Fits R (Action.log severity text >>= g) :=
  fits_bind (fits_log severity text) fun _ _ => h

theorem Fits.never_overflows (h : Fits P a) (m : Machine W) :
    (a.outcome m).1 ≠ .error .overflow := by
  intro hover
  have hend := h m
  rw [hover] at hend
  exact hend rfl

theorem Fits.of_returns {m m' : Machine W} {x : α} (h : Fits P a) (hrun : Returns a m x m') :
    P x := by
  have hend := h m
  rw [hrun] at hend
  exact hend

end Action

/-! ### Times and offsets -/

/-- The first nanosecond that is not in the years from 1970 to 2100 any more. -/
def endOf2100 : Int := 4133980800000000000

/-- A time in the years from 1970 to 2100. -/
def Instant.Contemporary (t : Instant) : Prop :=
  0 ≤ t.nanos.toInt ∧ t.nanos.toInt < endOf2100

/-- The longest offset that is moderate, in nanoseconds. -/
def Duration.farthest : Int := 2500000000000000000

def Duration.Moderate (d : Duration) : Prop :=
  -farthest ≤ d.nanos.toInt ∧ d.nanos.toInt ≤ farthest

/-- Up to some slack, the time is a moderate offset away from one in these
    years. -/
def Instant.Near (slack : Int) (t : Instant) : Prop :=
  -(Duration.farthest + slack) ≤ t.nanos.toInt ∧
    t.nanos.toInt ≤ endOf2100 + Duration.farthest + slack

namespace Instant

variable {t s : Instant} {d : Duration}

theorem Contemporary.near (h : t.Contemporary) : t.Near 0 := by
  unfold Contemporary at h
  unfold Near Duration.farthest
  omega

theorem Near.wider (h : t.Near 0) : t.Near nanosPerSecond := by
  unfold Near nanosPerSecond at *
  omega

theorem fits_sub {P : Instant → Prop} (lo : -0x8000000000000000 ≤ t.nanos.toInt - d.nanos.toInt)
    (hi : t.nanos.toInt - d.nanos.toInt < 0x8000000000000000)
    (h : ∀ u : Instant, u.nanos.toInt = t.nanos.toInt - d.nanos.toInt → P u) :
    (t.sub d).Fits P :=
  Checked.fits_map (Checked.fits_word lo hi fun w hw => h ⟨w⟩ hw)

theorem fits_add {P : Instant → Prop} (lo : -0x8000000000000000 ≤ t.nanos.toInt + d.nanos.toInt)
    (hi : t.nanos.toInt + d.nanos.toInt < 0x8000000000000000)
    (h : ∀ u : Instant, u.nanos.toInt = t.nanos.toInt + d.nanos.toInt → P u) :
    (t.add d).Fits P :=
  Checked.fits_map (Checked.fits_word lo hi fun w hw => h ⟨w⟩ hw)

theorem Contemporary.fits_add (h : t.Contemporary) (hd : d.Moderate) :
    (t.add d).Fits (Near 0) := by
  unfold Contemporary endOf2100 at h
  unfold Duration.Moderate Duration.farthest at hd
  refine Instant.fits_add (by omega) (by omega) fun u hu => ?_
  unfold Near endOf2100 Duration.farthest
  omega

/-- Rounding moves a time by half a second at most. -/
theorem fits_roundToSecond {P : Instant → Prop} (lo : -9200000000000000000 ≤ t.nanos.toInt)
    (hi : t.nanos.toInt ≤ 9200000000000000000)
    (h : ∀ u : Instant, u.nanos.toInt - t.nanos.toInt ≤ 500000000 →
      t.nanos.toInt - u.nanos.toInt ≤ 500000000 → P u) :
    t.roundToSecond.Fits P := by
  have hsplit := t.secs_subsec
  have hsubsec := t.subsec_lt
  unfold nanosPerSecond at hsplit
  refine Checked.fits_map (Checked.fits_word ?_ ?_ fun w hw => ?_)
  all_goals unfold nanosPerSecond at *
  · split <;> omega
  · split <;> omega
  · refine h ⟨w⟩ ?_ ?_
    · dsimp only [ofNanos]
      split at hw <;> omega
    · dsimp only [ofNanos]
      split at hw <;> omega

/-- The distance of two times that are near fits, and so does its negative. -/
theorem Near.fits_since (ht : t.Near nanosPerSecond) (hs : s.Near nanosPerSecond) :
    (t.since s).Fits fun d => d.neg.Fits fun _ => True := by
  unfold Near endOf2100 Duration.farthest nanosPerSecond at *
  refine Checked.fits_map (Checked.fits_word (by omega) (by omega) fun w hw => ?_)
  refine Checked.fits_map (Checked.fits_word ?_ ?_ fun _ _ => trivial)
  · dsimp only [Duration.ofNanos]
    omega
  · dsimp only [Duration.ofNanos]
    omega

end Instant

/-- The edge of a pulse that is out of phase is near, if the reading is. -/
theorem fits_approximateEdge {t : Instant} {phase : Duration} (ht : t.Near 0)
    (hphase : phase.Moderate) : (approximateEdge t phase).Fits (Instant.Near nanosPerSecond) := by
  unfold Instant.Near endOf2100 Duration.farthest at ht
  unfold Duration.Moderate Duration.farthest at hphase
  refine Checked.fits_bind (Instant.fits_sub (by omega) (by omega) fun _ h => h) ?_
  intro shifted hshifted
  refine Checked.fits_bind (Instant.fits_roundToSecond (by omega) (by omega)
    fun _ hlate hearly => And.intro hlate hearly) ?_
  rintro edge ⟨hlate, hearly⟩
  refine Instant.fits_add (by omega) (by omega) fun u hu => ?_
  unfold Instant.Near endOf2100 Duration.farthest nanosPerSecond
  omega

/-- Events of these years are attributed to an edge, and their corrected time is
    near. -/
theorem fits_pairEvent {event reference : Instant} {correction : Duration} {polarity : Polarity}
    {window : IgnoreWindow} (hevent : event.Contemporary) (hcorrection : correction.Moderate)
    (hreference : reference.Near 0) :
    (pairEvent event correction reference polarity window).Fits fun pairing =>
      ∀ offset localTime, pairing = .sample offset localTime → localTime.Near 0 := by
  unfold pairEvent
  split
  · intro offset localTime hsample
    cases hsample
  · refine Checked.fits_bind (hevent.fits_add hcorrection) fun localTime hlocal => ?_
    unfold Instant.Near endOf2100 Duration.farthest at hreference
    have hround : reference.roundToSecond.Fits (Instant.Near nanosPerSecond) := by
      refine Instant.fits_roundToSecond (by omega) (by omega) fun u hlate hearly => ?_
      unfold Instant.Near endOf2100 Duration.farthest nanosPerSecond
      omega
    refine Checked.fits_bind hround fun edge hedge => ?_
    refine Checked.fits_bind (hlocal.wider.fits_since hedge) fun offset _ => ?_
    rintro _ _ ⟨⟩
    exact hlocal

end ClockDiscipline
