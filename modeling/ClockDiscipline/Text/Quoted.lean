/-
  ClockDiscipline/Text/Quoted.lean
  ================================
  **Texts inside messages, in quotes.**

  What can not be seen, and what would end the quote, is written as an escape.
-/
import ClockDiscipline.Text.Printable

namespace ClockDiscipline.Text

/-- A character of a quoted text. -/
def quotedChar (c : Char) : String :=
  if c = '"' then "\\\""
  else if c = '\\' then "\\\\"
  else if c = '\n' then "\\n"
  else if c = '\r' then "\\r"
  else if c = '\t' then "\\t"
  else if c.toNat = 0 then "\\0"
  else if isPrintable c then String.singleton c
  else "\\u\x7b" ++ String.ofList (Nat.toDigits 16 c.toNat) ++ "\x7d"

def quoted (s : String) : String := "\"" ++ String.join (s.toList.map quotedChar) ++ "\""

end ClockDiscipline.Text
