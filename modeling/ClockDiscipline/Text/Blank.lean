/-
  ClockDiscipline/Text/Blank.lean
  ===============================
  **Blank text.**
-/

namespace ClockDiscipline.Text

/-- The characters with the Unicode property of being white space, as ranges. -/
def blankRanges : List (Nat × Nat) :=
  [(0x9, 0xD), (0x20, 0x20), (0x85, 0x85), (0xA0, 0xA0), (0x1680, 0x1680), (0x2000, 0x200A),
    (0x2028, 0x2029), (0x202F, 0x202F), (0x205F, 0x205F), (0x3000, 0x3000)]

def isBlankChar (c : Char) : Bool :=
  blankRanges.any fun (least, greatest) => least ≤ c.toNat && c.toNat ≤ greatest

/-- Whether there is nothing to be seen in a text. -/
def isBlank (s : String) : Bool := s.toList.all isBlankChar

end ClockDiscipline.Text
