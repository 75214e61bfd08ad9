/-
  ClockDiscipline/Json/Reader.lean
  ================================
  **Reading JSON from left to right.**

  A reader takes what it needs off the front of the text and returns the
  rest.  It stops at the first thing that is wrong.
-/
import ClockDiscipline.Json.Error
import ClockDiscipline.Json.Number
import ClockDiscipline.Json.Value

namespace ClockDiscipline.Json

/-- What has been read, and the rest of the text. -/
abbrev Taken (α : Type) := α × List Char

/-! ### Characters -/

def isBlank (c : Char) : Bool := c == ' ' || c == '\n' || c == '\t' || c == '\r'

def skipBlanks (cs : List Char) : List Char := cs.dropWhile isBlank

def isDigit (c : Char) : Bool := '0' ≤ c && c ≤ '9'

/-- The rest of a word of which the first letter has been read. -/
def expectWord : List Char → List Char → Except ReadError (List Char)
  | [], cs => .ok cs
  | _ :: _, [] => .error (.here .openValue [])
  | w :: word, c :: cs =>
    if w = c then expectWord word cs else .error (.next .unknownWord (c :: cs))

/-! ### Numbers -/

/-- One more than the greatest exponent that is told from others. -/
def exponentBound : Nat := 0x80000000

/-- The exponent after its letter.  One that is too great is noticed at once,
    unless all digits before it are zero. -/
def readExponent (significand : Nat) (cs : List Char) : Except ReadError (Taken Int) :=
  let (negative, cs) := match cs with
    | '-' :: rest => (true, rest)
    | '+' :: rest => (false, rest)
    | _ => (false, cs)
  match cs with
  | [] => .error (.here .openValue [])
  | c :: _ =>
    if isDigit c then
      let digits := cs.takeWhile isDigit
      let rest := cs.dropWhile isDigit
      let (_, left) := takeDigits exponentBound 0 digits
      let n : Int := Decimal.digitsValue 0 digits
      if !left.isEmpty && significand != 0 && !negative then
        .error (.here .hugeNumber (left.tail ++ rest))
      else .ok (if negative then -n else n, rest)
    else .error (.next .badNumber cs)

/-- The digits after a decimal point. -/
def readFraction (cs : List Char) : Except ReadError (Taken (List Char)) :=
  match cs with
  | [] => .error (.here .openValue [])
  | c :: _ =>
    if isDigit c then .ok (cs.takeWhile isDigit, cs.dropWhile isDigit)
    else .error (.next .badNumber cs)

/-- The double of a decimal, which has to be finite. -/
def finiteFloat (negative : Bool) (significand : Nat) (exponent : Int) (rest : List Char) :
    Except ReadError (Taken Json) :=
  match double? negative significand exponent with
  | some x => .ok (.float x, rest)
  | none => .error (.here .hugeNumber rest)

/-- An integer that a 64 bit word holds, or else a double.  Minus zero is no
    integer. -/
def wholeNumber (negative : Bool) (digits : Nat) (rest : List Char) :
    Except ReadError (Taken Json) :=
  if negative then
    if 0 < digits ∧ digits ≤ 0x8000000000000000 then .ok (.integer (-digits), rest)
    else finiteFloat true digits 0 rest
  else .ok (.integer digits, rest)

/-- The exponent of a number, if it has one, after the digits. -/
def readScale (negative : Bool) (significand : Nat) (exponent : Int) (cs : List Char) :
    Except ReadError (Taken Json) := do
  let (shift, rest) ← match cs with
    | 'e' :: rest | 'E' :: rest => readExponent significand rest
    | _ => .ok (0, cs)
  finiteFloat negative significand (exponent + shift) rest

/-- A number of which the digits in front of the point are `digits`.  Those
    that do not fit a word count as zeros in front of the point, and not at
    all behind it. -/
def readNumberTail (negative : Bool) (digits cs : List Char) : Except ReadError (Taken Json) := do
  let (whole, left) := takeDigits wordBound 0 digits
  match cs with
  | '.' :: rest =>
    let (fraction, rest) ← readFraction rest
    let (significand, ignored) := takeDigits wordBound whole fraction
    readScale negative significand (left.length - (fraction.length - ignored.length : Nat)) rest
  | 'e' :: _ | 'E' :: _ => readScale negative whole left.length cs
  | _ =>
    if left.isEmpty then wholeNumber negative whole cs
    else readScale negative whole left.length cs

/-- A number after its sign.  It has no leading zeros. -/
def readNumber (negative : Bool) (cs : List Char) : Except ReadError (Taken Json) :=
  match cs with
  | '0' :: rest =>
    match rest with
    | c :: _ =>
      if isDigit c then .error (.next .badNumber rest) else readNumberTail negative ['0'] rest
    | [] => readNumberTail negative ['0'] rest
  | c :: _ =>
    if isDigit c then readNumberTail negative (cs.takeWhile isDigit) (cs.dropWhile isDigit)
    else .error (.next .badNumber cs)
  | [] => .error (.here .openValue [])

/-! ### Strings -/

def hexValue? (c : Char) : Option Nat :=
  if isDigit c then some (c.toNat - '0'.toNat)
  else if 'a' ≤ c ∧ c ≤ 'f' then some (c.toNat - 'a'.toNat + 10)
  else if 'A' ≤ c ∧ c ≤ 'F' then some (c.toNat - 'A'.toNat + 10)
  else none

/-- The four hexadecimal digits of an escape.  They are counted in bytes of
    the text. -/
def readHex (cs : List Char) : Except ReadError (Taken Nat) :=
  match cs with
  | a :: b :: c :: d :: rest =>
    match hexValue? a, hexValue? b, hexValue? c, hexValue? d with
    | some a, some b, some c, some d => .ok (((a * 16 + b) * 16 + c) * 16 + d, rest)
    | _, _, _, _ => .error ⟨.unknownEscape, cs, 4⟩
  | _ =>
    if (cs.map Char.utf8Size).foldl (· + ·) 0 < 4 then .error (.here .openString [])
    else .error ⟨.unknownEscape, cs, 4⟩

/-- The second half of a pair of escapes. -/
def readLowSurrogate (high : Nat) (cs : List Char) : Except ReadError (Taken Char) := do
  match cs with
  | [] => .error (.here .openString [])
  | '\\' :: [] => .error (.here .openString [])
  | '\\' :: 'u' :: rest =>
    let (low, rest) ← readHex rest
    if 0xDC00 ≤ low ∧ low ≤ 0xDFFF then
      return (Char.ofNat (0x10000 + (high - 0xD800) * 0x400 + (low - 0xDC00)), rest)
    else .error (.here .loneHalf rest)
  | '\\' :: rest => .error (.next .missingHalf rest)
  | _ => .error (.next .missingHalf cs)

/-- The character of an escape by number. -/
def readUnicode (cs : List Char) : Except ReadError (Taken Char) := do
  let (n, rest) ← readHex cs
  if 0xDC00 ≤ n ∧ n ≤ 0xDFFF then .error (.here .loneHalf rest)
  else if 0xD800 ≤ n ∧ n ≤ 0xDBFF then readLowSurrogate n rest
  else return (Char.ofNat n, rest)

/-- The character of an escape after its backslash. -/
def readEscape (cs : List Char) : Except ReadError (Taken Char) :=
  match cs with
  | [] => .error (.here .openString [])
  | '"' :: rest => .ok ('"', rest)
  | '\\' :: rest => .ok ('\\', rest)
  | '/' :: rest => .ok ('/', rest)
  | 'b' :: rest => .ok (Char.ofNat 8, rest)
  | 'f' :: rest => .ok (Char.ofNat 12, rest)
  | 'n' :: rest => .ok ('\n', rest)
  | 'r' :: rest => .ok ('\r', rest)
  | 't' :: rest => .ok ('\t', rest)
  | 'u' :: rest => readUnicode rest
  | _ => .error (.next .unknownEscape cs)

/-- A string after its opening quote; `done` is what has been read, the last
    character first. -/
def readStringTail : Nat → List Char → List Char → Except ReadError (Taken String)
  | 0, _, cs => .error (.here .openString cs)
  | fuel + 1, done, cs =>
    match cs with
    | [] => .error (.here .openString [])
    | '"' :: rest => .ok (String.ofList done.reverse, rest)
    | '\\' :: rest =>
      match readEscape rest with
      | .error e => .error e
      | .ok (c, rest) => readStringTail fuel (c :: done) rest
    | c :: rest =>
      if c.toNat < 32 then .error (.here .controlCharacter rest)
      else readStringTail fuel (c :: done) rest

/-- A string after its opening quote. -/
def readString (cs : List Char) : Except ReadError (Taken String) :=
  readStringTail (cs.length + 1) [] cs

/-! ### Lists and objects -/

/-- Go to the next element of a list; there is none if it ends here. -/
def nextElement (isFirst : Bool) (cs : List Char) : Except ReadError (Taken Bool) :=
  match skipBlanks cs with
  | [] => .error (.here .openList [])
  | ']' :: rest => .ok (false, ']' :: rest)
  | c :: rest =>
    if isFirst then .ok (true, c :: rest)
    else if c = ',' then
      match skipBlanks rest with
      | [] => .error (.here .openValue [])
      | ']' :: rest => .error (.next .trailingComma (']' :: rest))
      | rest => .ok (true, rest)
    else .error (.next .noListSeparator (c :: rest))

/-- Leave a list that has been read to its end. -/
def leaveArray (cs : List Char) : Except ReadError (List Char) :=
  match skipBlanks cs with
  | [] => .error (.here .openList [])
  | ']' :: rest => .ok rest
  | ',' :: rest =>
    let rest := skipBlanks rest
    .error (.next (if rest.head? == some ']' then .trailingComma else .trailingCharacters) rest)
  | rest => .error (.next .trailingCharacters rest)

/-- Go to the next field of an object, and read its name; there is none if it
    ends here. -/
def nextField (isFirst : Bool) (cs : List Char) : Except ReadError (Taken (Option String)) := do
  match skipBlanks cs with
  | [] => .error (.here .openObject [])
  | '\x7d' :: rest => .ok (none, '\x7d' :: rest)
  | c :: rest =>
    let start ←
      if isFirst then .ok (c :: rest)
      else if c = ',' then
        match skipBlanks rest with
        | [] => .error (.here .openValue [])
        | '\x7d' :: rest => .error (.next .trailingComma ('\x7d' :: rest))
        | rest => .ok rest
      else .error (.next .noObjectSeparator (c :: rest))
    match start with
    | '"' :: rest =>
      let (name, rest) ← readString rest
      return (some name, rest)
    | _ => .error (.next .keyNotString start)

/-- Leave an object that has been read to its end. -/
def leaveObject (cs : List Char) : Except ReadError (List Char) :=
  match skipBlanks cs with
  | [] => .error (.here .openObject [])
  | '\x7d' :: rest => .ok rest
  | rest =>
    .error (.next (if rest.head? == some ',' then .trailingComma else .noObjectSeparator) rest)

/-- The colon between a name and its value. -/
def readColon (cs : List Char) : Except ReadError (List Char) :=
  match skipBlanks cs with
  | [] => .error (.here .openObject [])
  | ':' :: rest => .ok rest
  | rest => .error (.next .noColon rest)

/-- How deep lists and objects may be nested. -/
def depthLimit : Nat := 127

/-- Enough fuel for a text: each of its characters is the first of at most one
    value, and at most one element or field is begun for it. -/
def fuelFor (cs : List Char) : Nat := 2 * cs.length + 2

mutual

/-- Any value; `depth` more lists and objects may be entered. -/
def readValue : Nat → Nat → List Char → Except ReadError (Taken Json)
  | 0, _, cs => .error (.here .openValue cs)
  | fuel + 1, depth, cs =>
    match skipBlanks cs with
    | [] => .error (.here .openValue [])
    | c :: rest =>
      if c = 'n' then (fun r => (.null, r)) <$> expectWord "ull".toList rest
      else if c = 't' then (fun r => (.bool true, r)) <$> expectWord "rue".toList rest
      else if c = 'f' then (fun r => (.bool false, r)) <$> expectWord "alse".toList rest
      else if c = '-' then readNumber true rest
      else if isDigit c then readNumber false (c :: rest)
      else if c = '"' then (fun (s, r) => (.string s, r)) <$> readString rest
      else if c = '[' then
        match depth with
        | 0 => .error (.next .nestedTooDeeply (c :: rest))
        | depth + 1 => do
          let (elements, rest) ← readElements fuel depth true rest
          return (.array elements, ← leaveArray rest)
      else if c = '\x7b' then
        match depth with
        | 0 => .error (.next .nestedTooDeeply (c :: rest))
        | depth + 1 => do
          let (fields, rest) ← readFields fuel depth true rest
          return (.object fields, ← leaveObject rest)
      else .error (.next .noValue (c :: rest))

def readElements : Nat → Nat → Bool → List Char → Except ReadError (Taken (List Json))
  | 0, _, _, cs => .error (.here .openValue cs)
  | fuel + 1, depth, isFirst, cs => do
    let (more, rest) ← nextElement isFirst cs
    if more then
      let (value, rest) ← readValue fuel depth rest
      let (values, rest) ← readElements fuel depth false rest
      return (value :: values, rest)
    else return ([], rest)

def readFields : Nat → Nat → Bool → List Char → Except ReadError (Taken (List (String × Json)))
  | 0, _, _, cs => .error (.here .openValue cs)
  | fuel + 1, depth, isFirst, cs => do
    let (name?, rest) ← nextField isFirst cs
    match name? with
    | none => return ([], rest)
    | some name =>
      let rest ← readColon rest
      let (value, rest) ← readValue fuel depth rest
      let (fields, rest) ← readFields fuel depth false rest
      return ((name, value) :: fields, rest)

end

/-- Nothing but blanks may follow. -/
def readEnd (cs : List Char) : Except ReadError Unit :=
  let rest := skipBlanks cs
  if rest.isEmpty then .ok () else .error (.next .trailingCharacters rest)

/-- The value a text consists of. -/
def parse (s : String) : Except ReadError Json := do
  let cs := s.toList
  let (value, rest) ← readValue (fuelFor cs) depthLimit cs
  readEnd rest
  return value

end ClockDiscipline.Json
