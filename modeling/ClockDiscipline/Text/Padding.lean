/-
  ClockDiscipline/Text/Padding.lean
  =================================
  **Columns of a fixed least width.**

  Numbers in log lines are aligned to the right.  A text that is already as
  wide as its column is never cut.
-/

namespace ClockDiscipline.Text

/-- `text` at the right end of a column of at least `width` characters, the
    rest being `fill`. -/
def padLeft (width : Nat) (fill : Char) (text : String) : String :=
  String.ofList (List.replicate (width - text.length) fill) ++ text

/-- `n` with at least `width` decimal digits. -/
def zeroPadded (width n : Nat) : String := padLeft width '0' (toString n)

/-- The lower case hexadecimal digits of `n`, at least `width` of them. -/
def hexPadded (width n : Nat) : String :=
  padLeft width '0' (String.ofList (Nat.toDigits 16 n))

end ClockDiscipline.Text
