/-
  ClockDiscipline/Checked.lean
  ============================
  **Signed 64 bit arithmetic that refuses to leave its range.**

  Every time, span and offset is a 64 bit word.  An operation whose exact
  result is not such a word does not wrap: it faults, and a fault ends the
  run it occurs in.  `Checked` is the result of such an operation, and
  `word_eq_ok_iff` is the only fact about it that callers need: the operation
  succeeds with `w` exactly when `w` is the exact integer result.
-/

namespace ClockDiscipline

/-- Why a run ends without a result. -/
inductive Fault where
  /-- The exact result of an operation is not representable. -/
  | overflow
  /-- Something that depends on the outside world has no end, or was given
      up. -/
  | unfinished
  /-- The outside world gave an answer that can not occur. -/
  | unforeseen
deriving DecidableEq, Repr

/-- A result of arithmetic that may fault. -/
abbrev Checked := Except Fault

namespace Checked

/-- The word holding the integer `x`, if there is one. -/
def word (x : Int) : Checked Int64 :=
  if -0x8000000000000000 ≤ x ∧ x < 0x8000000000000000 then .ok (Int64.ofInt x)
  else .error .overflow

/-! ### Operations -/

def add (a b : Int64) : Checked Int64 := word (a.toInt + b.toInt)

def sub (a b : Int64) : Checked Int64 := word (a.toInt - b.toInt)

def mul (a b : Int64) : Checked Int64 := word (a.toInt * b.toInt)

def neg (a : Int64) : Checked Int64 := word (-a.toInt)

/-- The quotient rounded towards zero; only the least word divided by minus
    one has no such word.  The divisor is never zero where this is used. -/
def quot (a b : Int64) : Checked Int64 := word (a.toInt.tdiv b.toInt)

/-- The distance from zero, where the least word, whose distance is one too
    large, counts as the greatest. -/
def magnitude (a : Int64) : Int64 :=
  if a.toInt = -0x8000000000000000 then Int64.ofInt 0x7FFFFFFFFFFFFFFF
  else Int64.ofInt a.toInt.natAbs

/-! ### Their meaning -/

theorem word_eq_ok_iff {x : Int} {w : Int64} : word x = .ok w ↔ w.toInt = x := by
  unfold word
  constructor
  · intro h
    split at h
    · next hr =>
      cases h
      exact Int64.toInt_ofInt_of_le hr.1 hr.2
    · cases h
  · rintro rfl
    rw [if_pos ⟨Int64.le_toInt w, Int64.toInt_lt w⟩, Int64.ofInt_toInt]

theorem word_toInt (w : Int64) : word w.toInt = .ok w := word_eq_ok_iff.2 rfl

theorem word_eq_error_iff {x : Int} {e : Fault} :
    word x = .error e ↔ e = .overflow ∧ ¬(-0x8000000000000000 ≤ x ∧ x < 0x8000000000000000) := by
  unfold word
  split
  · simp_all
  · next h =>
    constructor
    · intro he
      cases he
      exact ⟨rfl, h⟩
    · rintro ⟨rfl, _⟩
      rfl

/-- Arithmetic succeeds whenever the exact result fits. -/
theorem exists_word {x : Int} (lo : -0x8000000000000000 ≤ x) (hi : x < 0x8000000000000000) :
    ∃ w, word x = .ok w ∧ w.toInt = x :=
  ⟨Int64.ofInt x, if_pos ⟨lo, hi⟩, Int64.toInt_ofInt_of_le lo hi⟩

end Checked

end ClockDiscipline
