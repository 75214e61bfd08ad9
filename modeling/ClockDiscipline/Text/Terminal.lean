/-
  ClockDiscipline/Text/Terminal.lean
  ==================================
  **Texts that are shown on a terminal.**

  Characters by which a text could steer the terminal are written as escapes.
  Other control characters, line feeds among them, stay as they are.
-/
import ClockDiscipline.Text.Padding

namespace ClockDiscipline.Text

/-- How a character is shown: the bell, the backspace, the form feed, the
    escape and the delete character, and those from 128 to 159, would steer
    the terminal. -/
def shownChar (c : Char) : String :=
  if [7, 8, 12, 27, 127].contains c.toNat then s!"\\x{hexPadded 2 c.toNat}"
  else if 128 ≤ c.toNat && c.toNat < 160 then
    "\\u\x7b" ++ String.ofList (Nat.toDigits 16 c.toNat) ++ "\x7d"
  else String.singleton c

/-- A text as it is shown. -/
def shown (s : String) : String := String.join (s.toList.map shownChar)

end ClockDiscipline.Text
