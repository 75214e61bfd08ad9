/-
  ClockDiscipline/Toml/Number.lean
  ================================
  **Numbers, dates and times in TOML.**

  A reader takes what it needs off the front of the text and returns the rest,
  or nothing if the text does not start with what it reads.
-/
import ClockDiscipline.Decimal.Reading
import ClockDiscipline.Document.Node

namespace ClockDiscipline.Toml

/-- What has been read, and the rest of the text. -/
abbrev Taken (α : Type) := α × List Char

/-! ### Digits -/

def isDecimal (c : Char) : Bool := '0' ≤ c && c ≤ '9'

def isOctal (c : Char) : Bool := '0' ≤ c && c ≤ '7'

def isBinary (c : Char) : Bool := c == '0' || c == '1'

def isHexadecimal (c : Char) : Bool :=
  isDecimal c || ('a' ≤ c && c ≤ 'f') || ('A' ≤ c && c ≤ 'F')

def digitValue (c : Char) : Nat :=
  if isDecimal c then c.toNat - '0'.toNat
  else if 'a' ≤ c then c.toNat - 'a'.toNat + 10
  else c.toNat - 'A'.toNat + 10

/-- The digits as a number, after those of `n`. -/
def digitsValue (base n : Nat) (cs : List Char) : Nat :=
  cs.foldl (fun n c => base * n + digitValue c) n

/-- Digits after a digit.  Two of them may have an underscore in between. -/
def moreDigits (isDigit : Char → Bool) : List Char → Option (Taken (List Char))
  | [] => some ([], [])
  | '_' :: c :: rest =>
    if isDigit c then (moreDigits isDigit rest).map fun (ds, rest) => (c :: ds, rest) else none
  | '_' :: [] => none
  | c :: rest =>
    if isDigit c then (moreDigits isDigit rest).map fun (ds, rest) => (c :: ds, rest)
    else some ([], c :: rest)

/-- At least one digit. -/
def someDigits (isDigit : Char → Bool) : List Char → Option (Taken (List Char))
  | c :: rest =>
    if isDigit c then (moreDigits isDigit rest).map fun (ds, rest) => (c :: ds, rest) else none
  | [] => none

/-- Decimal digits without a leading zero. -/
def wholeDigits : List Char → Option (Taken (List Char))
  | '0' :: rest => some (['0'], rest)
  | cs => someDigits isDecimal cs

/-- A minus or plus, which may be missing; the answer is whether it was a
    minus. -/
def takeSign : List Char → Bool × List Char
  | '-' :: rest => (true, rest)
  | '+' :: rest => (false, rest)
  | cs => (false, cs)

/-- Leave out a word at the front. -/
def dropWord : List Char → List Char → Option (List Char)
  | [], cs => some cs
  | w :: word, c :: cs => if w = c then dropWord word cs else none
  | _ :: _, [] => none

/-! ### Integers and floating point numbers -/

/-- Integers have to fit a signed 64 bit word. -/
def boundedInteger (value : Int) : Option Node :=
  if -0x8000000000000000 ≤ value ∧ value < 0x8000000000000000 then some (.integer value)
  else none

/-- An integer in another base, after its mark. -/
def readInBase (base : Nat) (isDigit : Char → Bool) (cs : List Char) : Option (Taken Node) := do
  let (ds, rest) ← someDigits isDigit cs
  return (← boundedInteger (digitsValue base 0 ds), rest)

/-- The exponent after its letter. -/
def readExponent (cs : List Char) : Option (Taken Int) := do
  let (negative, cs) := takeSign cs
  let (ds, rest) ← someDigits isDecimal cs
  let n : Int := digitsValue 10 0 ds
  return (if negative then -n else n, rest)

/-- The exponent, if there is one. -/
def readExponent? : List Char → Option (Taken Int)
  | 'e' :: rest | 'E' :: rest => readExponent rest
  | cs => some (0, cs)

/-- The double nearest to a decimal.  Positive decimals may not be too
    large. -/
def floatNode (negative : Bool) (digits : Nat) (exponent : Int) : Option Node :=
  let x := Decimal.toFloat negative digits exponent
  if x.isInf && !negative then none else some (.float x)

/-- A number of decimal digits after its sign. -/
def readDecimal (negative : Bool) (cs : List Char) : Option (Taken Node) := do
  let (whole, rest) ← wholeDigits cs
  let n := digitsValue 10 0 whole
  match rest with
  | '.' :: rest =>
    let (fraction, rest) ← someDigits isDecimal rest
    let (exponent, rest) ← readExponent? rest
    return (← floatNode negative (digitsValue 10 n fraction) (exponent - fraction.length), rest)
  | 'e' :: rest | 'E' :: rest =>
    let (exponent, rest) ← readExponent rest
    return (← floatNode negative n exponent, rest)
  | _ => return (← boundedInteger (if negative then -n else n), rest)

/-- A number after its sign; infinity and what is not a number are words. -/
def readSigned (negative : Bool) : List Char → Option (Taken Node)
  | 'i' :: rest => do
    let rest ← dropWord "nf".toList rest
    return (.float (if negative then -(1 / 0) else 1 / 0), rest)
  | 'n' :: rest => do
    let rest ← dropWord "an".toList rest
    return (.float (0 / 0), rest)
  | cs => readDecimal negative cs

def readNumber : List Char → Option (Taken Node)
  | '0' :: 'x' :: rest => readInBase 16 isHexadecimal rest
  | '0' :: 'o' :: rest => readInBase 8 isOctal rest
  | '0' :: 'b' :: rest => readInBase 2 isBinary rest
  | cs =>
    let (negative, cs) := takeSign cs
    readSigned negative cs

/-! ### Dates and times -/

/-- A number of exactly so many digits, not less than `least` and not greater
    than `greatest`. -/
def fixedDigits (count least greatest : Nat) (cs : List Char) : Option (Taken Nat) :=
  let ds := cs.take count
  let n := digitsValue 10 0 ds
  if ds.length = count ∧ ds.all isDecimal ∧ least ≤ n ∧ n ≤ greatest then some (n, cs.drop count)
  else none

def isLeapYear (year : Nat) : Bool := (year % 4 == 0 && year % 100 != 0) || year % 400 == 0

def daysInMonth (year month : Nat) : Nat :=
  match month with
  | 2 => if isLeapYear year then 29 else 28
  | 4 | 6 | 9 | 11 => 30
  | _ => 31

/-- Leave out a date. -/
def dropDate (cs : List Char) : Option (List Char) := do
  let (year, cs) ← fixedDigits 4 0 9999 cs
  let (month, cs) ← fixedDigits 2 1 12 (← dropWord ['-'] cs)
  let (_, cs) ← fixedDigits 2 1 (daysInMonth year month) (← dropWord ['-'] cs)
  return cs

/-- Leave out the fraction of a second, if there is one.  A point has to be
    followed by a digit. -/
def dropFraction : List Char → Option (List Char)
  | '.' :: c :: rest => if isDecimal c then some (rest.dropWhile isDecimal) else none
  | '.' :: [] => none
  | cs => some cs

def dropHourMinute (cs : List Char) : Option (List Char) := do
  let (_, cs) ← fixedDigits 2 0 23 cs
  let (_, cs) ← fixedDigits 2 0 59 (← dropWord [':'] cs)
  return cs

/-- Leave out a time of day.  There may be a leap second. -/
def dropTime (cs : List Char) : Option (List Char) := do
  let cs ← dropHourMinute cs
  let (_, cs) ← fixedDigits 2 0 60 (← dropWord [':'] cs)
  dropFraction cs

/-- Leave out the offset of a time, if there is one. -/
def dropOffset : List Char → Option (List Char)
  | 'Z' :: rest | 'z' :: rest => some rest
  | '+' :: rest | '-' :: rest => dropHourMinute rest
  | cs => some cs

/-- Leave out the time that may follow a date.  If what follows does not begin
    with an hour, it does not belong to the date. -/
def dropTimeOfDate : List Char → Option (List Char)
  | c :: rest =>
    if c == 'T' || c == 't' || c == ' ' then
      match fixedDigits 2 0 23 rest with
      | some (_, ':' :: _) => dropTime rest >>= dropOffset
      | _ => some (c :: rest)
    else some (c :: rest)
  | [] => some []

/-- Whether the text starts with as many digits and then with the mark. -/
def startsWithDigits (count : Nat) (mark : Char) (cs : List Char) : Bool :=
  (cs.take count).all isDecimal && cs[count]? == some mark

/-- A date, a time, or both. -/
def readDate (cs : List Char) : Option (Taken Node) :=
  if startsWithDigits 4 '-' cs then (dropDate cs >>= dropTimeOfDate).map (Node.date, ·)
  else if startsWithDigits 2 ':' cs then (dropTime cs).map (Node.date, ·)
  else none

end ClockDiscipline.Toml
